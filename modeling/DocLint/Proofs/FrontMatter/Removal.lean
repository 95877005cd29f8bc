import DocLint.Proofs.FrontMatter.RoundTrip
import DocLint.Proofs.Text.Ascii
import DocLint.Proofs.Text.Pieces

/-!
# What front matter takes off a text

Whatever a text holds, its body is what remains of it at the end. In front of the body stands
nothing, a marker with its line breaks, or a header with the line of dashes that closes it, after a
marker or not; and the three cases are told apart by the lines of the text and by what is read of
the header.
-/
namespace DocLint

namespace FrontMatter

variable {content marker rest header closing body text : List Char} {parts : Parts}

/-- Three dashes with blanks, and all line breaks after them. -/
structure IsMarker (marker rest : List Char) : Prop where
  shape : ∃ blanks breaks, marker = ['-', '-', '-'] ++ (blanks ++ breaks) ∧
    Text.isBlankText blanks = true ∧ (∀ c ∈ blanks, isLineBreak c = false) ∧
    breaks ≠ [] ∧ ∀ c ∈ breaks, isLineBreak c = true
  all : ∀ c ∈ rest.head?, isLineBreak c = false

/-- What is dropped at the start of a text: a marker, if the text starts with one. -/
inductive Opens : List Char → List Char → Prop
  | unmarked {rest : List Char} (none : ∀ m r, IsMarker m r → rest ≠ m ++ r) : Opens [] rest
  | marked {marker rest : List Char} (isMarker : IsMarker marker rest) : Opens marker rest

/-- Full lines, none of which is a line of dashes, and a line of dashes after them. It has its line
feed, unless it is the end of the text. -/
structure IsClosedBy (header closing body : List Char) : Prop where
  full : header = [] ∨ header.getLast? = some '\n'
  noDashes : ∀ line ∈ Text.lines header, isDashLine line = false
  closes : ∃ dashes, IsTerminator dashes ∧
    (closing = dashes ++ ['\n'] ∨ closing = dashes ∧ body = [])

/-- The properties of a header: none if it is blank or says nothing, otherwise its mapping. -/
inductive Says {ε : Type} (read : String → Except ε Json) : List Char → Fields → Prop
  | blank {header : List Char} (blank : Text.isBlankText header = true) : Says read header []
  | null {header : List Char} (filled : Text.isBlankText header = false)
      (reads : read (String.ofList header) = .ok .null) : Says read header []
  | mapping {header : List Char} {properties : Fields} (filled : Text.isBlankText header = false)
      (reads : read (String.ofList header) = .ok (.object properties)) : Says read header properties

inductive Removed {ε : Type} (read : String → Except ε Json) :
    List Char → Fields → List Char → Prop
  /-- Without a line of dashes there is no header. -/
  | noDashes {marker body : List Char} (opens : Opens marker body)
      (noDashes : ∀ line ∈ Text.lines body, isDashLine line = false) : Removed read marker [] body
  /-- A scalar or a sequence above a line of dashes is prose. -/
  | prose {marker header closing rest : List Char} {value : Json}
      (opens : Opens marker (header ++ (closing ++ rest)))
      (closed : IsClosedBy header closing rest) (filled : Text.isBlankText header = false)
      (reads : read (String.ofList header) = .ok value) (notNull : value ≠ .null)
      (notMapping : ∀ properties, value ≠ .object properties) :
      Removed read marker [] (header ++ (closing ++ rest))
  /-- A header goes with the line of dashes that closes it. -/
  | header {marker header closing body : List Char} {properties : Fields}
      (opens : Opens marker (header ++ (closing ++ body)))
      (closed : IsClosedBy header closing body) (content : Says read header properties) :
      Removed read (marker ++ (header ++ closing)) properties body

/-! ### The marker -/

theorem stripMarker_of_isMarker (isMarker : IsMarker marker rest) :
    stripMarker (marker ++ rest) = rest := by
  obtain ⟨blanks, breaks, rfl, blank, inner, some, outer⟩ := isMarker.shape
  obtain ⟨c, breaks, rfl⟩ := List.exists_cons_of_ne_nil some
  have stops : isLineBreak c = true := outer c List.mem_cons_self
  have inside : ∀ x ∈ blanks, (!isLineBreak x) = true := fun x member => by
    rw [inner x member, Bool.not_false]
  have taken : (blanks ++ (c :: breaks ++ rest)).takeWhile (fun x => !isLineBreak x) = blanks := by
    rw [List.takeWhile_append_of_pos inside, List.cons_append, List.takeWhile_cons]
    simp [stops]
  have dropped : (blanks ++ (c :: breaks ++ rest)).dropWhile (fun x => !isLineBreak x) =
      c :: breaks ++ rest := by
    rw [List.dropWhile_append_of_pos inside, List.cons_append, List.dropWhile_cons]
    simp [stops]
  have ended : rest.dropWhile isLineBreak = rest := by
    cases rest with
    | nil => rfl
    | cons x r => exact List.dropWhile_cons_of_neg (by simp [isMarker.all x rfl])
  rw [List.append_assoc, List.append_assoc]
  simp only [stripMarker, List.cons_append, List.nil_append]
  rw [← List.cons_append, taken, dropped, blank, List.dropWhile_append_of_pos outer, ended]
  rfl

/-- A marker is dropped, and nothing else is. -/
theorem stripMarker_cases (content : List Char) :
    stripMarker content = content ∨
      ∃ marker, content = marker ++ stripMarker content ∧ IsMarker marker (stripMarker content) := by
  unfold stripMarker
  split
  case h_2 => exact .inl rfl
  case h_1 rest =>
    dsimp only
    split
    case isFalse => exact .inl rfl
    case isTrue found =>
      rw [Bool.and_eq_true, Bool.not_eq_true', List.isEmpty_eq_false_iff] at found
      obtain ⟨more, blank⟩ := found
      let tail := rest.dropWhile fun c => !isLineBreak c
      have stops := List.head?_dropWhile_not (fun c => !isLineBreak c) rest
      have ended := List.head?_dropWhile_not isLineBreak tail
      refine .inr ⟨['-', '-', '-'] ++ (rest.takeWhile (fun c => !isLineBreak c) ++
        tail.takeWhile isLineBreak), ?_, ⟨_, _, rfl, blank, ?_, ?_, ?_⟩, ?_⟩
      · rw [List.append_assoc, List.append_assoc, List.takeWhile_append_dropWhile,
          List.takeWhile_append_dropWhile]
        rfl
      · intro c inside
        simpa using List.mem_takeWhile_imp inside
      · obtain ⟨c, r, eq⟩ := List.exists_cons_of_ne_nil more
        rw [eq] at stops
        have first : isLineBreak c = true := by simpa using stops
        simp [tail, eq, first]
      · intro c inside
        exact List.mem_takeWhile_imp inside
      · intro c first
        rw [Option.mem_def] at first
        rw [first] at ended
        simpa using ended

theorem IsMarker.ne_nil (isMarker : IsMarker marker rest) : marker ≠ [] := by
  obtain ⟨blanks, breaks, rfl, -⟩ := isMarker.shape
  simp

theorem stripMarker_eq_iff :
    stripMarker content = rest ↔ ∃ marker, content = marker ++ rest ∧ Opens marker rest := by
  constructor
  · rintro rfl
    rcases stripMarker_cases content with same | ⟨marker, eq, isMarker⟩
    · refine ⟨[], same.symm, .unmarked ?_⟩
      intro m r isMarker eq
      rw [same] at eq
      rw [eq, stripMarker_of_isMarker isMarker] at same
      exact isMarker.ne_nil (List.self_eq_append_left.mp same)
    · exact ⟨marker, eq, .marked isMarker⟩
  · rintro ⟨marker, rfl, opens⟩
    cases opens with
    | unmarked none =>
      rcases stripMarker_cases rest with same | ⟨m, eq, isMarker⟩
      · exact same
      · exact absurd eq (none m _ isMarker)
    | marked isMarker => exact stripMarker_of_isMarker isMarker

/-! ### The line of dashes -/

theorem isTerminator_of_uncut {dashes : List Char} (isDashes : isDashLine dashes = true)
    (uncut : ∀ c ∈ dashes, (c == '\n') = false) : IsTerminator dashes where
  oneLine inside := absurd (uncut '\n' inside) (by decide)
  dashes := isDashes

/-- The first line of dashes stands between the full lines above it and what comes after it. -/
theorem isClosedBy_of_cut? (cut : cut? text = some parts) :
    ∃ closing, text = parts.header ++ (closing ++ parts.body) ∧
      IsClosedBy parts.header closing parts.body := by
  have isPieces := Text.pieces_splitAfter (· == '\n') text
  have whole := List.takeWhile_append_dropWhile (p := fun line => !isDashLine line)
    (l := Text.splitAfter (· == '\n') text)
  have before : ∀ line ∈ (Text.splitAfter (· == '\n') text).takeWhile (fun line => !isDashLine line),
      isDashLine line = false := fun line inside => by
    simpa using List.mem_takeWhile_imp inside
  have stops := List.head?_dropWhile_not (fun line => !isDashLine line)
    (Text.splitAfter (· == '\n') text)
  rw [cut?] at cut
  cases later : (Text.splitAfter (· == '\n') text).dropWhile (fun line => !isDashLine line) with
  | nil =>
    rw [later] at cut
    cases cut
  | cons closing after =>
    rw [later] at cut stops whole
    cases cut
    have isDashes : isDashLine closing = true := by simpa using stops
    have flat := congrArg List.flatten whole
    rw [Text.flatten_splitAfter, List.flatten_append, List.flatten_cons] at flat
    rw [← whole] at isPieces
    obtain ⟨front, closed, back⟩ := isPieces.of_append_cons
    refine ⟨closing, flat.symm, ?full, ?noDashes, ?closes⟩
    case full =>
      refine (Text.getLast?_flatten_of_closed closed).imp_right ?_
      rintro ⟨c, last, cut⟩
      rw [last, beq_iff_eq.mp cut]
    case noDashes =>
      intro line member
      rw [Text.lines, front.splitAfter_flatten, List.mem_map] at member
      obtain ⟨piece, inside, rfl⟩ := member
      rw [isDashLine_congr (Text.trim_chomp piece)]
      exact before piece inside
    case closes =>
      cases back with
      | last _ uncut => exact ⟨closing, isTerminator_of_uncut isDashes uncut, .inr ⟨rfl, rfl⟩⟩
      | cons isClosed _ =>
        obtain ⟨dashes, c, rfl, cut, uncut⟩ := isClosed
        rw [beq_iff_eq.mp cut] at isDashes ⊢
        rw [isDashLine_congr (Text.trim_append_blanks dashes (by decide))] at isDashes
        exact ⟨dashes, isTerminator_of_uncut isDashes uncut, .inl rfl⟩

theorem cut?_of_isClosedBy (closed : IsClosedBy header closing body) :
    cut? (header ++ (closing ++ body)) = some ⟨header, body⟩ := by
  obtain ⟨dashes, terminator, rfl | ⟨rfl, rfl⟩⟩ := closed.closes
  · exact cut?_of_lines closed.full closed.noDashes terminator.line_feed
      (terminator.splitAfter_eq body)
  · refine cut?_of_lines closed.full closed.noDashes terminator.dashes ?_
    have uncut : ∀ c ∈ closing, (c == '\n') = false := by
      intro c inside
      rw [beq_eq_false_iff_ne]
      rintro rfl
      exact terminator.oneLine inside
    rw [List.append_nil, Text.splitAfter_uncut terminator.ne_nil uncut]
    rfl

theorem cut?_eq_none_iff : cut? text = none ↔ ∀ line ∈ Text.lines text, isDashLine line = false := by
  have same : (∀ line ∈ Text.lines text, isDashLine line = false) ↔
      ∀ line ∈ Text.splitAfter (· == '\n') text, isDashLine line = false := by
    refine ⟨isDashLine_of_mem_splitAfter, fun none line member => ?_⟩
    obtain ⟨piece, inside, rfl⟩ := List.mem_map.mp member
    rw [isDashLine_congr (Text.trim_chomp piece)]
    exact none piece inside
  rw [same, cut?]
  cases later : (Text.splitAfter (· == '\n') text).dropWhile (fun line => !isDashLine line) with
  | nil => simpa [List.dropWhile_eq_nil_iff] using later
  | cons closing after =>
    have stops := List.head?_dropWhile_not (fun line => !isDashLine line)
      (Text.splitAfter (· == '\n') text)
    rw [later] at stops
    have inside : closing ∈ Text.splitAfter (· == '\n') text :=
      (List.dropWhile_sublist _).mem (later ▸ List.mem_cons_self)
    refine iff_of_false (by simp) fun none => ?_
    simp [none closing inside] at stops

/-! ### Properties and body -/

variable {ε : Type} {read : String → Except ε Json} {properties : Fields}

/-- What is found above a line of dashes is decided by what is read of it. -/
theorem split_of_isClosedBy (stripped : stripMarker content = header ++ (closing ++ body))
    (closed : IsClosedBy header closing body) :
    split read content =
      if Text.isBlankText header then .ok ([], body)
      else
        match read (String.ofList header) with
        | .error e => .error e
        | .ok (.object properties) => .ok (properties, body)
        | .ok .null => .ok ([], body)
        | .ok _ => .ok ([], header ++ (closing ++ body)) := by
  rw [split, stripped]
  exact cut?_of_isClosedBy closed ▸ rfl

theorem split_of_removed {removed : List Char} (isRemoved : Removed read removed properties body) :
    split read (removed ++ body) = .ok (properties, body) := by
  cases isRemoved with
  | noDashes opens noDashes =>
    rw [split, stripMarker_eq_iff.mpr ⟨removed, rfl, opens⟩, cut?_eq_none_iff.mpr noDashes]
  | @prose _ _ _ _ value opens closed filled reads notNull notMapping =>
    rw [split_of_isClosedBy (stripMarker_eq_iff.mpr ⟨_, rfl, opens⟩) closed, filled, reads]
    cases value with
    | null => exact absurd rfl notNull
    | object m => exact absurd rfl (notMapping m)
    | bool value => rfl
    | number value => rfl
    | string value => rfl
    | array items => rfl
  | @header marker header closing _ _ opens closed content =>
    have stripped : stripMarker ((marker ++ (header ++ closing)) ++ body) =
        header ++ (closing ++ body) :=
      stripMarker_eq_iff.mpr ⟨marker, by simp, opens⟩
    rw [split_of_isClosedBy stripped closed]
    cases content with
    | blank blank => rw [if_pos blank]
    | null filled reads => rw [filled, reads, if_neg Bool.false_ne_true]
    | mapping filled reads => rw [filled, reads, if_neg Bool.false_ne_true]

theorem removed_of_split (found : split read content = .ok (properties, body)) :
    ∃ removed, content = removed ++ body ∧ Removed read removed properties body := by
  obtain ⟨marker, eq, opens⟩ := stripMarker_eq_iff.mp (rfl : stripMarker content = _)
  cases cut : cut? (stripMarker content) with
  | none =>
    rw [split, cut] at found
    cases found
    exact ⟨marker, eq, .noDashes opens (cut?_eq_none_iff.mp cut)⟩
  | some parts =>
    obtain ⟨closing, whole, closed⟩ := isClosedBy_of_cut? cut
    rw [split_of_isClosedBy whole closed] at found
    rw [whole] at eq opens
    have regrouped : content = (marker ++ (parts.header ++ closing)) ++ parts.body := by
      rw [eq]
      simp
    split at found
    case isTrue blank =>
      cases found
      exact ⟨_, regrouped, .header opens closed (.blank blank)⟩
    case isFalse filled =>
      rw [Bool.not_eq_true] at filled
      split at found
      case h_1 => cases found
      case h_2 reads =>
        cases found
        exact ⟨_, regrouped, .header opens closed (.mapping filled reads)⟩
      case h_3 reads =>
        cases found
        exact ⟨_, regrouped, .header opens closed (.null filled reads)⟩
      case h_4 value notMapping notNull reads =>
        cases found
        exact ⟨marker, eq, .prose opens closed filled reads notNull notMapping⟩

/-- Without carriage returns a marker is a line of dashes. -/
theorem opens_self (noReturn : '\r' ∉ content)
    (noDashes : ∀ line ∈ Text.lines content, isDashLine line = false) : Opens [] content := by
  refine .unmarked ?_
  rintro m r isMarker rfl
  obtain ⟨blanks, breaks, rfl, blank, inner, some, outer⟩ := isMarker.shape
  obtain ⟨c, breaks, rfl⟩ := List.exists_cons_of_ne_nil some
  have feed : c = '\n' := by
    have isBreak := outer c List.mem_cons_self
    rw [isLineBreak, Bool.or_eq_true, beq_iff_eq, beq_iff_eq] at isBreak
    refine isBreak.resolve_left ?_
    rintro rfl
    exact noReturn (by simp)
  have closed : Text.IsClosed (· == '\n') ((['-', '-', '-'] ++ blanks) ++ [c]) := by
    refine ⟨_, c, rfl, by simp [feed], fun x inside => ?_⟩
    rcases List.mem_append.mp inside with dash | inside
    · simp only [List.mem_cons, List.not_mem_nil, or_false, or_self] at dash
      rw [dash]
      decide
    · have := inner x inside
      rw [isLineBreak, Bool.or_eq_false_iff] at this
      exact this.2
  have first := Text.splitAfter_closed closed (breaks ++ r)
  have isDashes : isDashLine ((['-', '-', '-'] ++ blanks) ++ [c]) = true := by
    rw [isDashLine_congr (Text.trim_append_blanks _ (by rw [feed]; decide))]
    exact isDashLine_of_marker blank
  have absent := isDashLine_of_mem_splitAfter noDashes ((['-', '-', '-'] ++ blanks) ++ [c])
  simp only [List.append_assoc, List.cons_append, List.nil_append] at first absent isDashes
  rw [first] at absent
  rw [absent List.mem_cons_self] at isDashes
  cases isDashes

end FrontMatter

namespace Document

open FrontMatter

/-- A text is a document exactly if it is a body with something in front of it that can be taken
off: the markdown is the body, and the properties are those that are found in front of it. So no
body text is lost, and a text without carriage returns and lines of dashes is all body. -/
theorem parse_removes_front (read : String → Except String Json) (file content : String) :
    (∀ d, parse read file content = .ok d ↔
      ∃ removed, content.toList = removed ++ d.markdown.toList ∧
        Removed read removed d.properties d.markdown.toList ∧
        d = ofParts file d.properties d.markdown) ∧
    ('\r' ∉ content.toList → (∀ line ∈ Text.lines content.toList, isDashLine line = false) →
      parse read file content = .ok (ofParts file [] content)) := by
  refine ⟨fun d => ⟨fun parsed => ?_, ?_⟩, fun noReturn noDashes => ?_⟩
  · rw [parse] at parsed
    cases found : split read content.toList with
    | error reason =>
      rw [found] at parsed
      cases parsed
    | ok parts =>
      obtain ⟨properties, body⟩ := parts
      obtain ⟨removed, eq, isRemoved⟩ := removed_of_split found
      rw [found] at parsed
      cases parsed
      exact ⟨removed, by simpa [ofParts] using eq, by simpa [ofParts] using isRemoved, rfl⟩
  · rintro ⟨removed, eq, isRemoved, same⟩
    rw [parse, eq, split_of_removed isRemoved]
    dsimp only
    rw [String.ofList_toList, ← same]
  · have whole : split read ([] ++ content.toList) = .ok ([], content.toList) :=
      split_of_removed (.noDashes (opens_self noReturn noDashes) noDashes)
    rw [List.nil_append] at whole
    rw [parse, whole]
    dsimp only
    rw [String.ofList_toList]

/-- A marker that ends with a carriage return, an empty line, a header and a line of one dash. The
body may start with another marker, and what looks like a list is no line of dashes. -/
theorem parse_removes_marked_header :
    parse readOneField "x" "--- \r\na: 1\n -\n---\nb" =
      .ok (ofParts "x" [("a", .number (.integer 1))] "---\nb") ∧
    '\r' ∉ "- a\n\n- b".toList ∧ (∀ line ∈ Text.lines "- a\n\n- b".toList, isDashLine line = false) ∧
    parse readOneField "x" "- a\n\n- b" = .ok (ofParts "x" [] "- a\n\n- b") := by
  have isMarker : IsMarker "--- \r\n".toList "a: 1\n -\n---\nb".toList :=
    ⟨⟨[' '], ['\r', '\n'], by decide, by decide, forall_mem_of_all (by decide), by decide,
      forall_mem_of_all (by decide)⟩, by simp [isLineBreak]⟩
  have closed : IsClosedBy "a: 1\n".toList " -\n".toList "---\nb".toList :=
    ⟨.inr (by decide), by decide, [' ', '-'], ⟨by decide, by decide⟩, .inl (by decide)⟩
  have content : Says readOneField "a: 1\n".toList [("a", .number (.integer 1))] :=
    .mapping (by decide) (if_pos (by decide))
  have noReturn : '\r' ∉ "- a\n\n- b".toList := by decide
  have noDashes : ∀ line ∈ Text.lines "- a\n\n- b".toList, isDashLine line = false := by decide
  have removed : Removed readOneField ("--- \r\n".toList ++ ("a: 1\n".toList ++ " -\n".toList))
      [("a", .number (.integer 1))] "---\nb".toList := .header (.marked isMarker) closed content
  refine ⟨?_, noReturn, noDashes, (parse_removes_front readOneField "x" _).2 noReturn noDashes⟩
  exact ((parse_removes_front readOneField "x" _).1 _).mpr ⟨_, by decide, removed, rfl⟩

end Document
end DocLint
