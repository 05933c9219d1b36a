import ReleaseBundle.Proofs.Xml.Tags

/-!
# Reading documents

A document is read as its tree in every dialect that knows the rules it is written by. The reader goes through the
content of the open elements piece by piece; each piece is read back by its scanner and adds one node to
the innermost element. `RendersContent.readsNodes` puts the pieces together along the grammar: what is
added for some content is, with adjacent text joined, the list of nodes that was written. Elements and
contents hold each other, and so do the proofs about them.
-/

namespace ReleaseBundle.Xml

variable {rest : List Char} {dialect : Dialect} {rules : Rules}

/-! ## Trees -/

theorem directText_textBefore (content : List Char) (ns : List Node) :
    Node.directText (textBefore content ns) = content ++ Node.directText ns := by
  unfold textBefore
  split
  · simp [Node.directText]
  · split
    · next hnone => simp [hnone]
    · simp [Node.directText]

theorem findNamedAmong?_textBefore (wanted content : List Char) (ns : List Node) :
    Node.findNamedAmong? wanted (textBefore content ns) = Node.findNamedAmong? wanted ns := by
  unfold textBefore
  split
  · simp [Node.findNamedAmong?, Node.findNamed?]
  · split
    · rfl
    · simp [Node.findNamedAmong?, Node.findNamed?]

/-- Joining keeps the text of a list of nodes. -/
theorem directText_joinedNodes (ns : List Node) : Node.directText (joinedNodes ns) = Node.directText ns := by
  induction ns with
  | nil => rfl
  | cons n ns ih =>
    cases n with
    | text content => rw [joinedNodes, directText_textBefore, ih, Node.directText]
    | element => simpa [joinedNodes, Node.joined, Node.directText] using ih
    | comment => simpa [joinedNodes, Node.joined, Node.directText] using ih
    | instruction => simpa [joinedNodes, Node.joined, Node.directText] using ih

mutual

/-- Joining keeps which element is found first. -/
theorem findNamed?_joined (wanted : List Char) (n : Node) :
    Node.findNamed? wanted n.joined = (Node.findNamed? wanted n).map joinedNodes := by
  cases n with
  | element q attributes children =>
    rw [Node.joined, Node.findNamed?, Node.findNamed?]
    split
    · rfl
    · exact findNamedAmong?_joinedNodes wanted children
  | text content => rfl
  | comment content => rfl
  | instruction target content => rfl

theorem findNamedAmong?_joinedNodes (wanted : List Char) (ns : List Node) :
    Node.findNamedAmong? wanted (joinedNodes ns) = (Node.findNamedAmong? wanted ns).map joinedNodes := by
  cases ns with
  | nil => rfl
  | cons n ns =>
    have hfirst := findNamed?_joined wanted n
    have hothers := findNamedAmong?_joinedNodes wanted ns
    have hjoined : Node.findNamedAmong? wanted (joinedNodes (n :: ns)) =
        match Node.findNamed? wanted n.joined with
        | some children => some children
        | none => Node.findNamedAmong? wanted (joinedNodes ns) := by
      cases n with
      | text content =>
        rw [joinedNodes, findNamedAmong?_textBefore, Node.joined, Node.findNamed?]
      | element => rfl
      | comment => rfl
      | instruction => rfl
    rw [hjoined, hfirst, Node.findNamedAmong?]
    cases Node.findNamed? wanted n with
    | none => exact hothers
    | some children => rfl

end

theorem joinedNodes_cons {m n : Node} (h : m.joined = n) (htext : ∀ content, n ≠ .text content)
    (raw : List Node) : joinedNodes (m :: raw) = n :: joinedNodes raw := by
  cases m with
  | text content => exact absurd h.symm (htext content)
  | element => simp [joinedNodes, h]
  | comment => simp [joinedNodes, h]
  | instruction => simp [joinedNodes, h]

/-! ## One piece of content -/

section Step

variable {top : Frame} {below : List Frame} {text : List Char}

/-- What is done with the next piece of the content, by what it begins with. -/
theorem readContent_eq (top : Frame) (below : List Frame) (hsome : text ≠ []) :
    readContent dialect top below text =
      match beginning text with
      | .nothing => .error ⟨.unknownToken, text⟩
      | .comment => (readComment text).bind fun r => readContent dialect (top.push r.1) below r.2
      | .cdata => (readCData text).bind fun r =>
          readContent dialect (top.push (.text (dialect.text (r.1.map .literal)))) below r.2
      | .instruction => (readInstruction text).bind fun r => readContent dialect (top.push r.1) below r.2
      | .closing => (readClosingTag text).bind fun r =>
          if r.1 ≠ top.name then .error ⟨.mismatchedTag top.name r.1, text⟩
          else
            match below with
            | [] => .ok (top.node, r.2)
            | outer :: below => readContent dialect (outer.push top.node) below r.2
      | .opening => (readStartTag dialect top.scope text).bind fun r =>
          match r.1 with
          | none => .error ⟨.rootNotClosed, []⟩
          | some tag =>
            match tag.ending with
            | .closed => readContent dialect (top.push tag.frame.node) below r.2
            | .opened => readContent dialect tag.frame (top :: below) r.2
      | .text => (readText text).bind fun r => (pieces r.2 r.1).bind fun ps =>
          readContent dialect (top.push (.text (dialect.text ps))) below r.2 := by
  obtain ⟨c, cs, rfl⟩ := List.exists_cons_of_ne_nil hsome
  rw [readContent]
  split <;> rename_i hbegins <;> simp only [hbegins]
  case h_7 =>
    split <;> rename_i hread <;> rw [hread]
    · rfl
    · simp only [Except.bind]
      split <;> rename_i hpieces <;> rw [hpieces]
  all_goals split <;> rename_i hread <;> rw [hread] <;> rfl

theorem readContent_comment {n : Node} (hbegins : beginning text = .comment)
    (hread : readComment text = .ok (n, rest)) :
    readContent dialect top below text = readContent dialect (top.push n) below rest := by
  rw [readContent_eq top below (by rintro rfl; cases hbegins), hbegins]
  simp only [hread, Except.bind]

theorem readContent_instruction {n : Node} (hbegins : beginning text = .instruction)
    (hread : readInstruction text = .ok (n, rest)) :
    readContent dialect top below text = readContent dialect (top.push n) below rest := by
  rw [readContent_eq top below (by rintro rfl; cases hbegins), hbegins]
  simp only [hread, Except.bind]

theorem readContent_cdata {written : List Char} (hbegins : beginning text = .cdata)
    (hread : readCData text = .ok (written, rest)) :
    readContent dialect top below text =
      readContent dialect (top.push (.text (dialect.text (written.map .literal)))) below rest := by
  rw [readContent_eq top below (by rintro rfl; cases hbegins), hbegins]
  simp only [hread, Except.bind]

theorem readContent_run {run : List Char} {ps : List Piece} (hbegins : beginning text = .text)
    (hsome : text ≠ []) (hread : readText text = .ok (run, rest)) (hpieces : pieces rest run = .ok ps) :
    readContent dialect top below text = readContent dialect (top.push (.text (dialect.text ps))) below rest := by
  rw [readContent_eq top below hsome, hbegins]
  simp only [hread, Except.bind, hpieces]

theorem readContent_closing {outer : Frame} (hbegins : beginning text = .closing)
    (hread : readClosingTag text = .ok (top.name, rest)) :
    readContent dialect top (outer :: below) text = readContent dialect (outer.push top.node) below rest := by
  rw [readContent_eq top (outer :: below) (by rintro rfl; cases hbegins), hbegins]
  simp only [hread, Except.bind, ne_eq, not_true_eq_false, if_false]

theorem readContent_closing_root (hbegins : beginning text = .closing)
    (hread : readClosingTag text = .ok (top.name, rest)) :
    readContent dialect top [] text = .ok (top.node, rest) := by
  rw [readContent_eq top [] (by rintro rfl; cases hbegins), hbegins]
  simp only [hread, Except.bind, ne_eq, not_true_eq_false, if_false]

theorem readContent_empty {tag : StartTag} (hbegins : beginning text = .opening)
    (hread : readStartTag dialect top.scope text = .ok (some tag, rest)) (hending : tag.ending = .closed) :
    readContent dialect top below text = readContent dialect (top.push tag.frame.node) below rest := by
  rw [readContent_eq top below (by rintro rfl; cases hbegins), hbegins]
  simp only [hread, Except.bind, hending]

theorem readContent_opening {tag : StartTag} (hbegins : beginning text = .opening)
    (hread : readStartTag dialect top.scope text = .ok (some tag, rest)) (hending : tag.ending = .opened) :
    readContent dialect top below text = readContent dialect tag.frame (top :: below) rest := by
  rw [readContent_eq top below (by rintro rfl; cases hbegins), hbegins]
  simp only [hread, Except.bind, hending]

end Step

/-! ## What the pieces begin with -/

theorem beginning_comment {n : Node} {cs : List Char} (h : RendersComment n cs) :
    beginning (cs ++ rest) = .comment := by
  obtain ⟨more, rfl⟩ := h.exists_cons
  rfl

theorem beginning_instruction {n : Node} {cs : List Char} (h : RendersInstruction n cs) :
    beginning (cs ++ rest) = .instruction := by
  obtain ⟨more, rfl⟩ := h.exists_cons
  rfl

theorem beginning_section {written cs : List Char} (h : RendersSection written cs) :
    beginning (cs ++ rest) = .cdata := by
  obtain ⟨more, rfl⟩ := h.exists_cons
  rfl

theorem beginning_opening {c : Char} (hc : isNameStart c = true) :
    beginning ('<' :: c :: rest) = .opening := by
  have hmarks : c ≠ '!' ∧ c ≠ '?' ∧ c ≠ '/' := by
    refine ⟨?_, ?_, ?_⟩
    all_goals
      rintro rfl
      exact absurd hc (by decide)
  unfold beginning
  split
  · next h => exact absurd (List.cons.inj (List.cons.inj h).2).1 hmarks.1
  · next h => exact absurd (List.cons.inj (List.cons.inj h).2).1 hmarks.2.1
  · next h => exact absurd (List.cons.inj (List.cons.inj h).2).1 hmarks.2.2
  · next h => cases h
  · rfl
  · next hno => exact absurd rfl (hno c rest)

theorem beginning_text {c : Char} (hc : c ≠ '<') : beginning (c :: rest) = .text := by
  unfold beginning
  split
  all_goals first | rfl | (next h => exact absurd (List.cons.inj h).1 hc)

/-- A tag begins with a name. -/
theorem RendersTag.exists_cons {rules : Rules} {scope : Scope} {q : QName} {as : List Attribute}
    {tag : List Char} (h : RendersTag rules scope q as tag) :
    ∃ c more, tag = c :: more ∧ isNameStart c = true := by
  obtain @⟨cs, blanks, hproper, hattributes, hblanks⟩ := h
  obtain ⟨c, more, hcons, hc⟩ := hproper.name.exists_cons
  exact ⟨c, more ++ cs ++ blanks, by rw [hcons]; rfl, hc⟩

theorem RendersElement.exists_cons {rules : Rules} {outer : Scope} {n : Node} {cs : List Char}
    (h : RendersElement rules outer n cs) :
    ∃ c more, cs = '<' :: c :: more ∧ isNameStart c = true := by
  cases h with
  | empty htag =>
    obtain ⟨c, more, rfl, hc⟩ := htag.exists_cons
    exact ⟨c, _, rfl, hc⟩
  | filled htag hcontent hblanks =>
    obtain ⟨c, more, rfl, hc⟩ := htag.exists_cons
    exact ⟨c, _, rfl, hc⟩

theorem RendersComment.ne_text {n : Node} {cs : List Char} (h : RendersComment n cs) (content : List Char) :
    n ≠ .text content := by
  cases h
  simp

theorem RendersInstruction.ne_text {n : Node} {cs : List Char} (h : RendersInstruction n cs)
    (content : List Char) : n ≠ .text content := by
  cases h <;> simp

theorem RendersElement.ne_text {rules : Rules} {outer : Scope} {n : Node} {cs : List Char}
    (h : RendersElement rules outer n cs) (content : List Char) : n ≠ .text content := by
  cases h <;> simp

/-- Where no run may begin, content in front of a tag begins with a tag. -/
theorem RendersContent.exists_cons {rules : Rules} {scope : Scope} {ns : List Node} {cs : List Char}
    (h : RendersContent rules scope false ns cs) (after : List Char) :
    ∃ more, cs ++ '<' :: after = '<' :: more := by
  cases h with
  | done => exact ⟨after, rfl⟩
  | cdata hsection hmore =>
    obtain ⟨more, rfl⟩ := hsection.exists_cons
    exact ⟨_, rfl⟩
  | comment hcomment hmore =>
    obtain ⟨more, rfl⟩ := hcomment.exists_cons
    exact ⟨_, rfl⟩
  | instruction hinstruction hmore =>
    obtain ⟨more, rfl⟩ := hinstruction.exists_cons
    exact ⟨_, rfl⟩
  | element helement hmore =>
    obtain ⟨c, more, rfl, -⟩ := helement.exists_cons
    exact ⟨_, rfl⟩

/-! ## Content -/

theorem readText_run {ps : List Piece} {run : List Char} (hrun : RendersRun ps run)
    (hmark : ¬ [']', ']', '>'] <:+: run) (more : List Char) :
    readText (run ++ '<' :: more) = .ok (run, '<' :: more) := by
  have hchars : ∀ c ∈ run, isChar c = true := fun c hc => (Bool.and_eq_true_iff.1 (hrun.all_isRunChar c hc)).1
  have hon : ∀ s, s ≠ [] → s <:+ run → ((s ++ '<' :: more).head? == some '<') = false := by
    intro s hsome hsuffix
    obtain ⟨c, after, rfl⟩ := List.exists_cons_of_ne_nil hsome
    have hc : c ≠ '<' := by
      simpa using (Bool.and_eq_true_iff.1 (hrun.all_isRunChar c (hsuffix.subset (by simp)))).2
    simp [hc]
  have huntil := charsUntil_append (fun t => t.head? == some '<') hchars (by decide) (by simp) hon
  simp only [readText, huntil, occurs_eq_false hmark, Bool.false_eq_true, if_false]

namespace Frame

/-- An element with further children. -/
def pushAll (f : Frame) (ns : List Node) : Frame := { f with children := ns.reverse ++ f.children }

@[simp] theorem pushAll_nil (f : Frame) : f.pushAll [] = f := rfl

@[simp] theorem pushAll_push (f : Frame) (n : Node) (ns : List Node) :
    (f.push n).pushAll ns = f.pushAll (n :: ns) := by
  simp [push, pushAll]

@[simp] theorem push_scope (f : Frame) (n : Node) : (f.push n).scope = f.scope := rfl

@[simp] theorem pushAll_name (f : Frame) (ns : List Node) : (f.pushAll ns).name = f.name := rfl

end Frame

theorem RendersTag.proper {rules : Rules} {scope : Scope} {q : QName} {as : List Attribute}
    {tag : List Char} (h : RendersTag rules scope q as tag) : q.Proper := by
  obtain @⟨cs, blanks, hproper, hattributes, hblanks⟩ := h
  exact hproper.name

/-- The text is taken for a node in an element with the bindings `outer`. -/
def ReadsNode (dialect : Dialect) (outer : Scope) (n : Node) (cs : List Char) : Prop :=
  ∀ top : Frame, top.scope = outer → ∀ (below : List Frame) (rest : List Char),
    ∃ m : Node, m.joined = n ∧
      readContent dialect top below (cs ++ rest) = readContent dialect (top.push m) below rest

/-- The text in front of a tag is taken for nodes in an element with the bindings `scope`. -/
def ReadsNodes (dialect : Dialect) (scope : Scope) (ns : List Node) (cs : List Char) : Prop :=
  ∀ top : Frame, top.scope = scope → ∀ (below : List Frame) (after : List Char),
    ∃ raw : List Node, joinedNodes raw = ns ∧
      readContent dialect top below (cs ++ '<' :: after) =
        readContent dialect (top.pushAll raw) below ('<' :: after)

theorem readsNode_comment {scope : Scope} {n : Node} {cs : List Char} (h : RendersComment n cs) :
    ReadsNode dialect scope n cs := by
  intro top htop below rest
  obtain ⟨m, hm, hread⟩ := readComment_written h rest
  exact ⟨m, hm, readContent_comment (beginning_comment h) hread⟩

theorem readsNode_instruction {scope : Scope} {n : Node} {cs : List Char} (h : RendersInstruction n cs) :
    ReadsNode dialect scope n cs := by
  intro top htop below rest
  obtain ⟨m, hm, hread⟩ := readInstruction_written h rest
  exact ⟨m, hm, readContent_instruction (beginning_instruction h) hread⟩

theorem readsNode_empty {outer : Scope} {q : QName} {as : List Attribute} {tag : List Char}
    (hknows : dialect.Knows rules) (htag : RendersTag rules (bindings as ++ outer) q as tag) :
    ReadsNode dialect outer (.element q as []) ('<' :: tag ++ ['/', '>']) := by
  intro top htop below rest
  have hread := readStartTag_written hknows htag .closed rest
  rw [← htop] at hread
  obtain ⟨c, more, rfl, hc⟩ := htag.exists_cons
  have htext : '<' :: (c :: more) ++ ['/', '>'] ++ rest =
      '<' :: ((c :: more) ++ (TagEnd.closed.written ++ rest)) := by simp [TagEnd.written]
  refine ⟨.element q as [], rfl, ?_⟩
  rw [htext]
  exact readContent_empty (beginning_opening hc) hread rfl

theorem readsNode_filled {outer : Scope} {q : QName} {as : List Attribute} {children : List Node}
    {tag content blanks : List Char} (hknows : dialect.Knows rules)
    (htag : RendersTag rules (bindings as ++ outer) q as tag)
    (hcontent : ReadsNodes dialect (bindings as ++ outer) children content) (hblanks : Blank blanks) :
    ReadsNode dialect outer (.element q as children)
      ('<' :: tag ++ '>' :: content ++ '<' :: '/' :: q.written ++ blanks ++ ['>']) := by
  intro top htop below rest
  have hread := readStartTag_written hknows htag .opened
    (content ++ '<' :: '/' :: (q.written ++ (blanks ++ '>' :: rest)))
  rw [← htop] at hread hcontent
  let frame : Frame := ⟨q, as, bindings as ++ top.scope, []⟩
  obtain ⟨raw, hraw, hinside⟩ := hcontent frame rfl (top :: below)
    ('/' :: (q.written ++ (blanks ++ '>' :: rest)))
  have hclosing := readClosingTag_written htag.proper hblanks rest
  obtain ⟨c, more, rfl, hc⟩ := htag.exists_cons
  have htext : '<' :: (c :: more) ++ '>' :: content ++ '<' :: '/' :: q.written ++ blanks ++ ['>'] ++ rest =
      '<' :: ((c :: more) ++ (TagEnd.opened.written ++
        (content ++ '<' :: '/' :: (q.written ++ (blanks ++ '>' :: rest))))) := by simp [TagEnd.written]
  refine ⟨(frame.pushAll raw).node, by simp [Frame.node, Frame.pushAll, Node.joined, frame, hraw], ?_⟩
  rw [htext]
  calc readContent dialect top below _
      = readContent dialect frame (top :: below) _ := readContent_opening (beginning_opening hc) hread rfl
    _ = readContent dialect (frame.pushAll raw) (top :: below) _ := hinside
    _ = readContent dialect (top.push (frame.pushAll raw).node) below rest := readContent_closing rfl hclosing

theorem readsNodes_nil {scope : Scope} : ReadsNodes dialect scope [] [] :=
  fun _ _ _ _ => ⟨[], rfl, rfl⟩

/-- Nodes behind another one that is no text. -/
theorem ReadsNodes.cons {scope : Scope} {n : Node} {cs more : List Char} {ns : List Node}
    (hmore : ReadsNodes dialect scope ns more) (hfirst : ReadsNode dialect scope n cs)
    (htext : ∀ content, n ≠ .text content) : ReadsNodes dialect scope (n :: ns) (cs ++ more) := by
  intro top htop below after
  obtain ⟨m, hm, hread⟩ := hfirst top htop below (more ++ '<' :: after)
  obtain ⟨raw, hraw, hon⟩ := hmore (top.push m) htop below after
  refine ⟨m :: raw, by rw [joinedNodes_cons hm htext, hraw], ?_⟩
  rw [List.append_assoc, hread, hon, Frame.pushAll_push]

theorem ReadsNodes.cdata {scope : Scope} {written cs more : List Char} {ns : List Node}
    (hmore : ReadsNodes dialect scope ns more) (hsection : RendersSection written cs) :
    ReadsNodes dialect scope (textBefore (dialect.text (written.map .literal)) ns) (cs ++ more) := by
  intro top htop below after
  obtain ⟨raw, hraw, hon⟩ := hmore (top.push (.text (dialect.text (written.map .literal)))) htop below after
  refine ⟨.text (dialect.text (written.map .literal)) :: raw, by rw [joinedNodes, hraw], ?_⟩
  rw [List.append_assoc, readContent_cdata (beginning_section hsection) (readCData_written hsection), hon,
    Frame.pushAll_push]

/-- A run of text ends at the tag that follows it. -/
theorem ReadsNodes.run {scope : Scope} {ps : List Piece} {run more : List Char} {ns : List Node}
    (hmore : ReadsNodes dialect scope ns more) (htag : ∀ after, ∃ next, more ++ '<' :: after = '<' :: next)
    (hsome : run ≠ []) (hrun : RendersRun ps run) (hmark : ¬ [']', ']', '>'] <:+: run) :
    ReadsNodes dialect scope (textBefore (dialect.text ps) ns) (run ++ more) := by
  intro top htop below after
  obtain ⟨next, hnext⟩ := htag after
  obtain ⟨raw, hraw, hon⟩ := hmore (top.push (.text (dialect.text ps))) htop below after
  have hbegins : beginning (run ++ '<' :: next) = .text := by
    obtain ⟨c, run, rfl⟩ := List.exists_cons_of_ne_nil hsome
    apply beginning_text
    simpa using (Bool.and_eq_true_iff.1 (hrun.all_isRunChar c (by simp))).2
  refine ⟨.text (dialect.text ps) :: raw, by rw [joinedNodes, hraw], ?_⟩
  rw [List.append_assoc, hnext,
    readContent_run hbegins (by simp) (readText_run hrun hmark next) (pieces_rendered hrun), ← hnext, hon,
    Frame.pushAll_push]

/-- Content that is written is read as its nodes. The induction goes through the elements in the content
as well. -/
theorem RendersContent.readsNodes {scope : Scope} {mayRun : Bool} {ns : List Node} {cs : List Char}
    (hknows : dialect.Knows rules) (h : RendersContent rules scope mayRun ns cs) :
    ReadsNodes dialect scope ns cs := by
  refine @RendersContent.rec rules (fun outer n cs _ => ReadsNode dialect outer n cs)
    (fun scope _ ns cs _ => ReadsNodes dialect scope ns cs) ?empty ?filled ?done ?run ?cdata ?comment
    ?instruction ?element scope mayRun ns cs h
  case empty =>
    intro outer q as tag htag
    exact readsNode_empty hknows htag
  case filled =>
    intro outer q as children tag content blanks htag _ hblanks ih
    exact readsNode_filled hknows htag ih hblanks
  case done =>
    intro scope mayRun
    exact readsNodes_nil
  case run =>
    intro scope ps run ns more hsome hrun hmark _ hmore ih
    rw [← hknows.text]
    exact ih.run hmore.exists_cons hsome hrun hmark
  case cdata =>
    intro scope mayRun written cs ns more hsection _ ih
    rw [← hknows.text]
    exact ih.cdata hsection
  case comment =>
    intro scope mayRun n cs ns more hcomment _ ih
    exact ih.cons (readsNode_comment hcomment) hcomment.ne_text
  case instruction =>
    intro scope mayRun n cs ns more hinstruction _ ih
    exact ih.cons (readsNode_instruction hinstruction) hinstruction.ne_text
  case element =>
    intro scope mayRun n cs ns more helement _ ihElement ih
    exact ih.cons ihElement helement.ne_text

end ReleaseBundle.Xml
