import ReleaseBundle.Proofs.Layout
import ReleaseBundle.Proofs.Path.Meaning

/-!
# Which settings are accepted

Apart from the name of the artifact and of the build program, what decides is whether the directory for
archives lies inside the build output. Both are joined to the project root before they are compared, and
still the root has no say in it, nor has the spelling of either path: archives are refused a place exactly
if what the path of the build output means begins what the path of their directory means.
-/

namespace ReleaseBundle.Settings

namespace Choices

/-- The build output as it was chosen, before it is joined to the root. -/
def chosenOutput (c : Choices) : Path := c.output.getD (usualOutput c.chosenName)

/-- The directory for archives as it was chosen, before it is joined to the root. -/
def chosenReleases (c : Choices) : Path := c.releases.getD (.ofString "dist")

/-- The names are fit for use, there is a root to join paths to, and the chosen paths are relative. -/
structure Proper (c : Choices) : Prop where
  root : c.root.bytes ≠ []
  name : isBlankText c.chosenName = false
  oneName : c.chosenName.toList.any Text.isSeparator = false
  program : isBlankText c.chosenToolchain.program = false
  output : ∀ p ∈ c.output, p.isAbsolute = false
  releases : ∀ p ∈ c.releases, p.isAbsolute = false

variable {c : Choices}

/-- The usual places are relative too. -/
theorem Proper.chosenOutput_relative (h : c.Proper) : c.chosenOutput.isAbsolute = false := by
  cases houtput : c.output with
  | some p => rw [chosenOutput, houtput, Option.getD_some, h.output p houtput]
  | none =>
    have hslash : Path.slash ∉ Text.ofString c.chosenName := fun hslash =>
      List.any_eq_false.1 h.oneName '/' (by simpa using Text.mem_encode_slash hslash) (by decide)
    rw [chosenOutput, houtput, Option.getD_none, usualOutput, Path.isAbsolute_join]
    · rfl
    · exact Path.isAbsolute_part hslash

theorem Proper.chosenReleases_relative (h : c.Proper) : c.chosenReleases.isAbsolute = false := by
  cases hreleases : c.releases with
  | some p => rw [chosenReleases, hreleases, Option.getD_some, h.releases p hreleases]
  | none =>
    rw [chosenReleases, hreleases, Option.getD_none]
    rfl

/-- With fit names nothing but the place of the archives is left to be refused. -/
theorem Proper.settings_eq (h : c.Proper) :
    c.settings = if c.chosenOutput.meaning <+: c.chosenReleases.meaning then
      .error (.releasesInsideOutput (c.root.join c.chosenReleases) (c.root.join c.chosenOutput))
    else .ok c.resolved := by
  have hinside := Path.startsWith_join h.chosenOutput_relative h.chosenReleases_relative h.root
  have hname : isBlankText c.resolved.name = false := h.name
  have hone : c.resolved.name.toList.any Text.isSeparator = false := h.oneName
  have hprogram : isBlankText c.resolved.toolchain.program = false := h.program
  have htest : c.resolved.releases.startsWith c.resolved.output = true ↔
      c.chosenOutput.meaning <+: c.chosenReleases.meaning := hinside
  unfold settings refusal?
  rw [if_neg (by simp [hname]), if_neg (by simp [hone])]
  by_cases hbegins : c.chosenOutput.meaning <+: c.chosenReleases.meaning
  · rw [if_pos (htest.2 hbegins), if_pos hbegins]
    rfl
  · rw [if_neg (fun hstarts => hbegins (htest.1 hstarts)), if_neg (by simp [hprogram]), if_neg hbegins]

theorem Proper.accepted_iff (h : c.Proper) :
    (∃ s, c.settings = .ok s) ↔ ¬ c.chosenOutput.meaning <+: c.chosenReleases.meaning := by
  rw [h.settings_eq]
  split
  · next hbegins => simp [hbegins]
  · next hbegins => simp [hbegins]

/-- Any other root is as good. -/
theorem Proper.withRoot (h : c.Proper) {root : Path} (hroot : root.bytes ≠ []) :
    ({ c with root } : Choices).Proper :=
  { h with root := hroot }

/-- And so is any other spelling of the paths. -/
theorem Proper.respelled (h : c.Proper) {output releases : Path}
    (houtput : c.chosenOutput.Respelled output) (hreleases : c.chosenReleases.Respelled releases) :
    ({ c with output := some output, releases := some releases } : Choices).Proper :=
  { h with
    output := by
      rintro p ⟨rfl⟩
      rw [← houtput.isAbsolute_eq, h.chosenOutput_relative]
    releases := by
      rintro p ⟨rfl⟩
      rw [← hreleases.isAbsolute_eq, h.chosenReleases_relative] }

/-- A list that ends in a longer name somewhere does not begin with the shorter one there. -/
theorem not_prefix_of_longer_name {front rest : List Component} {name suffix : Bytes} (h : suffix ≠ []) :
    ¬ front ++ [.name name] <+: front ++ .name (name ++ suffix) :: rest := by
  rw [List.prefix_append_right_inj, List.cons_prefix_cons, Component.name.injEq]
  rintro ⟨hsame, _⟩
  exact h (List.append_right_eq_self.1 hsame.symm)

/-- Archives are refused a place inside the build output exactly if the meaning of the one path begins that
of the other, and nothing else is refused. The root and the spelling have no say in it, and a directory
whose name only begins with that of the build output is none of its subdirectories. -/
theorem settings_by_meaning (h : c.Proper) :
    (c.settings =
        .error (.releasesInsideOutput (c.root.join c.chosenReleases) (c.root.join c.chosenOutput)) ↔
      c.chosenOutput.meaning <+: c.chosenReleases.meaning) ∧
    (c.settings = .ok c.resolved ↔ ¬ c.chosenOutput.meaning <+: c.chosenReleases.meaning) ∧
    (∀ root : Path, root.bytes ≠ [] →
      ((∃ s, ({ c with root } : Choices).settings = .ok s) ↔ ∃ s, c.settings = .ok s)) ∧
    (∀ output releases, c.chosenOutput.Respelled output → c.chosenReleases.Respelled releases →
      ((∃ s, ({ c with output := some output, releases := some releases } : Choices).settings = .ok s) ↔
        ∃ s, c.settings = .ok s)) ∧
    ∀ front name suffix rest, suffix ≠ [] → c.chosenOutput.meaning = front ++ [.name name] →
      c.chosenReleases.meaning = front ++ .name (name ++ suffix) :: rest → c.settings = .ok c.resolved := by
  have heq := h.settings_eq
  refine ⟨?_, ?_, fun root hroot => ?_, fun output releases houtput hreleases => ?_, ?_⟩
  · rw [heq]
    split
    · next hbegins => simp [hbegins]
    · next hbegins => simp [hbegins]
  · rw [heq]
    split
    · next hbegins => simp [hbegins]
    · next hbegins => simp [hbegins]
  · rw [(h.withRoot hroot).accepted_iff, h.accepted_iff]
    rfl
  · rw [(h.respelled houtput hreleases).accepted_iff, h.accepted_iff, houtput.meaning_eq,
      hreleases.meaning_eq]
    rfl
  · intro front name suffix rest hsuffix houtput hreleases
    rw [heq, if_neg]
    rw [houtput, hreleases]
    exact not_prefix_of_longer_name hsuffix

/-- A root that ends in a slash, and archives beside the build output under a longer name. -/
def beside : Choices :=
  { root := .ofString "/w/", name := some "W", output := some (.ofString "./dist//W/"),
    releases := some (.ofString "dist/W-old/./x") }

/-- Archives below the build output, through a `.` and a doubled slash. -/
def below : Choices := { beside with releases := some (.ofString "dist/.//W/x/..") }

/-- Both decisions are met with. -/
theorem beside_accepted_below_refused :
    beside.settings = .ok beside.resolved ∧
      below.settings = .error (.releasesInsideOutput (.ofString "/w/dist/.//W/x/..")
        (.ofString "/w/./dist//W/")) ∧
      ∃ s, ({ beside with root := .ofString ".." } : Choices).settings = .ok s := by
  have hbeside : beside.Proper :=
    ⟨by decide, by decide, by decide, by decide, by decide, by decide⟩
  have hbelow : below.Proper :=
    ⟨by decide, by decide, by decide, by decide, by decide, by decide⟩
  obtain ⟨_, haccepted, hroot, _, _⟩ := settings_by_meaning hbeside
  obtain ⟨hrefused, _⟩ := settings_by_meaning hbelow
  have hok : beside.settings = .ok beside.resolved := haccepted.2 (by decide)
  exact ⟨hok, hrefused.2 (by decide), (hroot (.ofString "..") (by decide)).2 ⟨_, hok⟩⟩

end Choices

end ReleaseBundle.Settings
