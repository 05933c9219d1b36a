import ReleaseBundle.CommandLine.Execute

/-!
# Verbosity and colours only show

How much is shown and in which colours decides nothing: an execution reports the same events whatever it
is asked to show, and only the rendering differs. What is compared here is the program's own text, without
log records and without what the toolchain writes. There is one plain text for the error output. On the
standard output there are two, one with the details and one without, which differ by the details only, and
quiet executions leave it empty. Colours come on top of these texts as sequences that can be taken out
again.
-/

namespace ReleaseBundle

/-! ## Taking pieces out of a text -/

/-- The third text is the second one with the pieces taken out, one after the other. -/
inductive Without : List Bytes → Bytes → Bytes → Prop where
  | done : Without [] [] []
  | keep {pieces whole rest} (b : UInt8) : Without pieces whole rest →
    Without pieces (b :: whole) (b :: rest)
  | cut {pieces whole rest} (piece : Bytes) : Without pieces whole rest →
    Without (piece :: pieces) (piece ++ whole) rest

namespace Without

variable {pieces pieces' : List Bytes} {whole whole' rest rest' : Bytes}

theorem refl (text : Bytes) : Without [] text text := by
  induction text with
  | nil => exact .done
  | cons b text ih => exact .keep b ih

theorem piece (text : Bytes) : Without [text] text [] := by
  have h := Without.cut text .done
  rwa [List.append_nil] at h

theorem append (h : Without pieces whole rest) (h' : Without pieces' whole' rest') :
    Without (pieces ++ pieces') (whole ++ whole') (rest ++ rest') := by
  induction h with
  | done => exact h'
  | keep b _ ih => exact .keep b ih
  | cut piece _ ih =>
    rw [List.append_assoc]
    exact .cut piece ih

/-- Texts that are put together from parts are treated part by part. -/
theorem flatMap {α : Type} {cut : α → List Bytes} {before after : α → Bytes} (as : List α)
    (h : ∀ a ∈ as, Without (cut a) (before a) (after a)) :
    Without (as.flatMap cut) (as.flatMap before) (as.flatMap after) := by
  induction as with
  | nil => exact .done
  | cons a as ih =>
    rw [List.forall_mem_cons] at h
    simp only [List.flatMap_cons]
    exact h.1.append (ih h.2)

end Without

/-! ## One message -/

namespace Span

/-- Whether a span is nothing but colour. -/
def isColour : Span → Bool
  | text _ => false
  | paint _ _ | unpaint => true

/-- The sequence that a span inserts into a coloured text. -/
def inserted (coloured : Bool) (s : Span) : List Bytes :=
  if coloured && s.isColour then [Text.ofString (s.render true)] else []

theorem without_inserted (coloured : Bool) (s : Span) :
    Without (s.inserted coloured) (Text.ofString (s.render coloured)) (Text.ofString (s.render false)) := by
  cases coloured with
  | false => exact .refl _
  | true =>
    cases s with
    | text s => exact .refl _
    | paint colour bold => exact .piece _
    | unpaint => exact .piece _

end Span

namespace Message

variable {m : Message}

theorem ofString_foldl (parts : List String) (front : String) :
    Text.ofString (parts.foldl (· ++ ·) front) =
      Text.ofString front ++ parts.flatMap Text.ofString := by
  induction parts generalizing front with
  | nil => simp
  | cons part parts ih => rw [List.foldl_cons, ih]; simp

theorem ofString_render (coloured : Bool) (m : Message) :
    Text.ofString (m.render coloured) = m.spans.flatMap fun s => Text.ofString (s.render coloured) := by
  rw [render, ofString_foldl, List.flatMap_map]
  rfl

/-- What is shown of a message is the same with colours once they are taken out. -/
theorem without_colours (v : Verbosity) (coloured : Bool) (c : Channel) (m : Message) :
    Without (if m.isShown v && m.channel == c then m.spans.flatMap (Span.inserted coloured) else [])
      (Text.ofString (m.shown v coloured c)) (Text.ofString (m.shown v false c)) := by
  unfold shown
  split
  · rw [ofString_render, ofString_render]
    exact .flatMap _ fun s _ => s.without_inserted coloured
  · exact .refl _

/-- Failures are shown whatever the verbosity is, and nothing else is on the error output. -/
theorem shown_err (v v' : Verbosity) (coloured : Bool) (m : Message) :
    m.shown v coloured .err = m.shown v' coloured .err := by
  cases m <;> simp [shown, channel, isShown]

/-- The standard output is for executions that are not quiet. -/
theorem shown_quiet {v : Verbosity} (h : v.quiet = true) (coloured : Bool) (m : Message) :
    m.shown v coloured .out = "" := by
  cases m <;> simp [shown, channel, isShown, h]

/-- The text of a detail, and nothing of any other message. -/
def detailText : Message → List Bytes
  | .detail text => [Text.ofString ((Message.detail text).render false)]
  | _ => []

/-- Verbose executions show the details in addition. -/
theorem without_details (m : Message) :
    Without m.detailText (Text.ofString (m.shown ⟨true, false⟩ false .out))
      (Text.ofString (m.shown ⟨false, false⟩ false .out)) := by
  cases m with
  | detail text => exact .piece _
  | _ => exact .refl _

end Message

namespace CommandLine

/-! ## The program's own text -/

/-- What the program itself says, in order. -/
def said (events : List Event) : List Message :=
  events.filterMap fun
    | .said m => some m
    | _ => none

/-- What the program itself writes to a channel: neither log records nor what the toolchain writes. -/
def Rendering.own (r : Rendering) (c : Channel) (events : List Event) : Bytes :=
  r.all c ((said events).map .said)

theorem own_eq_flatMap (r : Rendering) (c : Channel) (events : List Event) :
    r.own c events =
      (said events).flatMap fun m => Text.ofString (m.shown r.verbosity r.coloured c) := by
  rw [Rendering.own, Rendering.all, List.flatMap_map]
  rfl

/-- A text that shows a plain one, with colours if they are used and as it is if not. -/
def Shows (coloured : Bool) (shown plain : Bytes) : Prop :=
  ∃ pieces, (∀ piece ∈ pieces, coloured = true ∧ ∃ s : Span, s.isColour = true ∧
    piece = Text.ofString (s.render true)) ∧ Without pieces shown plain

theorem own_shows (r : Rendering) (c : Channel) (events : List Event) :
    Shows r.coloured (r.own c events)
      ((said events).flatMap fun m => Text.ofString (m.shown r.verbosity false c)) := by
  rw [own_eq_flatMap]
  refine ⟨_, fun piece hpiece => ?_, .flatMap _ fun m _ => m.without_colours r.verbosity r.coloured c⟩
  obtain ⟨m, _, hmessage⟩ := List.mem_flatMap.1 hpiece
  split at hmessage
  · obtain ⟨s, _, hspan⟩ := List.mem_flatMap.1 hmessage
    unfold Span.inserted at hspan
    split at hspan
    · next hcolour =>
      rw [Bool.and_eq_true] at hcolour
      exact ⟨hcolour.1, s, hcolour.2, List.mem_singleton.1 hspan⟩
    · cases hspan
  · cases hmessage

/-- Verbosity and colours change nothing but what is shown. There are one text for the error output and two
for the standard output, `full` and, without the details, `brief`; whatever is asked for, an execution ends
with the same result and the same disk and shows these texts. -/
theorem verbosity_only_shows (host : Host) (a : Arguments) (d : Disk) :
    ∃ err full brief : Bytes,
      Without ((said (execute host a d).events).flatMap Message.detailText) full brief ∧
      ∀ (verbose quiet : Bool) (terminal : Option String) (noColour : Bool) (filter : LogFilter),
        let told := execute host { a with verbose := verbose, quiet := quiet } d
        let r : Rendering := ⟨⟨verbose, quiet⟩, usesColour terminal noColour, filter⟩
        told.result = (execute host a d).result ∧ told.disk = (execute host a d).disk ∧
          Shows (usesColour terminal noColour) (r.own .err told.events) err ∧
          (quiet = true → r.own .out told.events = []) ∧
          (quiet = false →
            Shows (usesColour terminal noColour) (r.own .out told.events) (if verbose then full else brief)) := by
  let plain (v : Verbosity) (c : Channel) : Bytes :=
    (said (execute host a d).events).flatMap fun m => Text.ofString (m.shown v false c)
  refine ⟨plain ⟨false, false⟩ .err, plain ⟨true, false⟩ .out, plain ⟨false, false⟩ .out,
    .flatMap _ fun m _ => m.without_details, ?_⟩
  -- neither flag is looked at before the rendering, so both executions are the same
  intro verbose quiet terminal noColour filter
  refine ⟨rfl, rfl, ?_, ?_, ?_⟩
  · have herr : plain ⟨verbose, quiet⟩ .err = plain ⟨false, false⟩ .err := by
      simp only [plain, Message.shown_err ⟨verbose, quiet⟩ ⟨false, false⟩]
    rw [← herr]
    exact own_shows ⟨⟨verbose, quiet⟩, usesColour terminal noColour, filter⟩ .err _
  · rintro rfl
    simp [own_eq_flatMap, Message.shown_quiet (v := ⟨verbose, true⟩) rfl, Text.ofString]
  · rintro rfl
    have hout : (if verbose then plain ⟨true, false⟩ .out else plain ⟨false, false⟩ .out) =
        plain ⟨verbose, false⟩ .out := by cases verbose <;> rfl
    rw [hout]
    exact own_shows ⟨⟨verbose, false⟩, usesColour terminal noColour, filter⟩ .out _

end CommandLine

end ReleaseBundle
