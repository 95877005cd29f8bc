import DocLint.Proofs.Checks.ListedWords
import DocLint.Proofs.Prose.LetterCase
import Mathlib.Order.Defs.PartialOrder

/-!
# Known words as a set

What the dictionary and the custom words list counts as one set of words. The reports are the words
of the document, in order, less those that the set accepts, so that a larger set leaves a sublist of
them. Only the case of their letters tells the reports of documents apart that differ in nothing
else.

The words of a document are ASCII. Whichever way the entries are put in lower case, only the entries
whose lower case is ASCII can accept one, and for these it is `lowerChar` that matters.
-/
namespace DocLint.Checks.Spelling

open Prose Unicode

/-! ### Sets of words -/

/-- A way to put texts in lower case which agrees with `lowerChar` wherever the result is ASCII. -/
structure IsLowering (lower : List Char → List Char) : Prop where
  ascii_iff : ∀ s w, (∀ c ∈ w, c.toNat < 128) → (lower s = w ↔ s.map lowerChar = w)

/-- The words that entries make known: trimmed, not empty, and in lower case. -/
def MakesKnown (lower : List Char → List Char) (entries : List (List Char)) (w : List Char) : Prop :=
  ∃ entry ∈ entries, Text.trim entry ≠ [] ∧ lower (Text.trim entry) = w

/-- Every entry of the first list is one of the second, up to the case of ASCII letters. -/
def Covered (entries others : List (List Char)) : Prop :=
  ∀ entry ∈ entries, ∃ other ∈ others, eqIgnoringAsciiCase entry other = true

variable {lower : List Char → List Char} {entries others : List (List Char)}
  {w word s t : List Char}

theorem ascii_map_lowerChar (isWord : IsWord word) {part : List Char} (inside : part.Sublist word) :
    ∀ c ∈ part.map lowerChar, c.toNat < 128 := by
  intro c member
  obtain ⟨x, found, rfl⟩ := List.mem_map.mp member
  rcases isWord.letter_or_apostrophe (inside.mem found) with letter | rfl
  · exact of_isAsciiLetter (P := fun x => (lowerChar x).toNat < 128) (by decide) letter
  · decide

theorem makesKnown_iff_listed (lowering : IsLowering lower) (ascii : ∀ c ∈ w, c.toNat < 128) :
    MakesKnown lower entries w ↔ Listed entries w := by
  unfold MakesKnown Listed
  simp only [lowering.ascii_iff _ w ascii]

/-- Knowing more words, one has fewer unknown ones. -/
theorem IsUnknown.of_makesKnown (lowering : IsLowering lower)
    (le : ∀ w, MakesKnown lower entries w → MakesKnown lower others w) (isWord : IsWord word)
    (unknown : IsUnknown others word) : IsUnknown entries word := by
  have listed {part : List Char} (inside : part.Sublist word)
      (here : Listed entries (part.map lowerChar)) : Listed others (part.map lowerChar) := by
    have ascii := ascii_map_lowerChar isWord inside
    exact (makesKnown_iff_listed lowering ascii).mp
      (le _ ((makesKnown_iff_listed lowering ascii).mpr here))
  obtain ⟨whole, stem⟩ := unknown
  constructor
  · intro here
    exact whole (listed (List.Sublist.refl word) here)
  · intro joined here
    exact stem joined (listed (List.takeWhile_sublist _) here)

/-! ### Trimming and the case of letters -/

theorem trimStart_map_toLower (s : List Char) :
    Text.trimStart (s.map Char.toLower) = (Text.trimStart s).map Char.toLower := by
  have same : Text.isBlank ∘ Char.toLower = Text.isBlank := funext isBlank_toLower
  rw [Text.trimStart, List.dropWhile_map, same, Text.trimStart]

theorem trim_map_toLower (s : List Char) :
    Text.trim (s.map Char.toLower) = (Text.trim s).map Char.toLower := by
  rw [Text.trim, Text.trimEnd, trimStart_map_toLower, ← List.map_reverse, trimStart_map_toLower,
    ← List.map_reverse, Text.trim, Text.trimEnd]

theorem trim_same_case (same : eqIgnoringAsciiCase s t = true) :
    eqIgnoringAsciiCase (Text.trim s) (Text.trim t) = true := by
  have lowered := congrArg Text.trim (beq_iff_eq.mp same)
  rw [trim_map_toLower, trim_map_toLower] at lowered
  exact beq_iff_eq.mpr lowered

theorem Covered.makesKnown (covered : Covered entries others)
    (known : MakesKnown (List.map lowerChar) entries w) :
    MakesKnown (List.map lowerChar) others w := by
  obtain ⟨entry, member, some, rfl⟩ := known
  obtain ⟨other, listed, same⟩ := covered entry member
  have trimmed := trim_same_case same
  refine ⟨other, listed, ?_, (map_lowerChar_eq trimmed).symm⟩
  intro none
  rw [none] at trimmed
  exact some (List.map_eq_nil_iff.mp (beq_iff_eq.mp trimmed))

/-- Lowering a word changes nothing about whether it is known. -/
theorem isUnknown_map_toLower :
    IsUnknown entries (word.map Char.toLower) ↔ IsUnknown entries word := by
  have lowered (s : List Char) : (s.map Char.toLower).map lowerChar = s.map lowerChar := by
    refine map_lowerChar_eq (beq_iff_eq.mpr ?_)
    rw [List.map_map]
    exact List.map_congr_left fun c _ => toLower_toLower c
  have apostrophe (c : Char) : c.toLower = '\'' ↔ c = '\'' := toLower_eq_iff (by decide)
  have stem : (· != '\'') ∘ Char.toLower = (· != '\'') := by
    funext c
    simp [bne, apostrophe]
  have joined : '\'' ∈ word.map Char.toLower ↔ '\'' ∈ word := by
    simp [apostrophe]
  rw [IsUnknown, IsUnknown, lowered, List.takeWhile_map, stem, lowered, joined]

/-! ### Reports with their places -/

def placedIn (words : List (List PlacedWord)) : List (Nat × PlacedWord) :=
  words.zipIdx.flatMap fun (line, i) => line.map (i, ·)

def unknownIn (entries : List (List Char)) (words : List (List PlacedWord)) :
    List (Nat × PlacedWord) :=
  (placedIn words).filter fun x => IsUnknown entries x.2.word

/-- The result reports these words of these lines, in this order. -/
def ReportsAll (result : CheckResult) (found : List (Nat × PlacedWord)) : Prop :=
  result.detail = some (.array (found.map fun x => .string (report x.1 x.2)))

def place (x : Nat × PlacedWord) : Nat × Nat × Nat := (x.1, x.2.start, x.2.stop)

/-- A document with the same lines up to the case of ASCII letters. -/
def SameButCase (document recased : Document) : Prop :=
  List.Forall₂ (fun line other => eqIgnoringAsciiCase line.toList other.toList = true)
    document.lines recased.lines

variable {words also : List (List PlacedWord)}

theorem reportsFrom_eq_map : reportsFrom entries 0 words =
    (unknownIn entries words).map fun x => report x.1 x.2 := by
  rw [reportsFrom, unknownIn, placedIn, List.filter_flatMap, List.map_flatMap]
  refine List.flatMap_congr fun line _ => ?_
  rw [List.filter_map, List.map_map]
  rfl

theorem AreWordsOf.exists_line {lines : List String} {ps : List PlacedWord}
    (areWords : AreWordsOf lines words) (member : ps ∈ words) :
    ∃ line : String, AreWords 0 line.toList ps := by
  induction areWords with
  | nil => cases member
  | @cons line _ _ _ first _ ih =>
    rcases List.mem_cons.mp member with rfl | later
    · exact ⟨line, first⟩
    · exact ih later

theorem isWord_of_mem_placedIn {lines : List String} (areWords : AreWordsOf lines words)
    {x : Nat × PlacedWord} (member : x ∈ placedIn words) : IsWord x.2.word := by
  obtain ⟨⟨ps, i⟩, line, inside⟩ := List.mem_flatMap.mp member
  obtain ⟨p, found, rfl⟩ := List.mem_map.mp inside
  obtain ⟨text, lineWords⟩ := areWords.exists_line (List.fst_mem_of_mem_zipIdx line)
  obtain ⟨-, -, -, -, -, -, isWord, -⟩ := (lineWords.mem_iff p).mp found
  exact isWord

/-- With more words known, some of the reports are left, in their order. -/
theorem unknownIn_sublist (lowering : IsLowering lower)
    (le : ∀ w, MakesKnown lower entries w → MakesKnown lower others w) {lines : List String}
    (areWords : AreWordsOf lines words) :
    (unknownIn others words).Sublist (unknownIn entries words) := by
  have fewer : unknownIn others words =
      (unknownIn entries words).filter fun x => IsUnknown others x.2.word := by
    rw [unknownIn, unknownIn, List.filter_filter]
    refine List.filter_congr fun x member => ?_
    have isWord := isWord_of_mem_placedIn areWords member
    rw [Bool.eq_iff_iff, Bool.and_eq_true, decide_eq_true_eq, decide_eq_true_eq]
    exact ⟨fun unknown => ⟨unknown, unknown.of_makesKnown lowering le isWord⟩, And.left⟩
  rw [fewer]
  exact List.filter_sublist

/-- Lines that differ in the case of letters have the same words up to that, line by line. -/
theorem map_lower_eq_of_recased {lines recased : List String}
    (same : List.Forall₂ (fun line other => eqIgnoringAsciiCase line.toList other.toList = true)
      lines recased)
    (areWords : AreWordsOf lines words) (recasedWords : AreWordsOf recased also) :
    words.map (List.map PlacedWord.lower) = also.map (List.map PlacedWord.lower) := by
  induction same generalizing words also with
  | nil =>
    cases areWords
    cases recasedWords
    rfl
  | cons line _ ih =>
    obtain _ | ⟨first, rest⟩ := areWords
    obtain _ | ⟨first', rest'⟩ := recasedWords
    rw [List.map_cons, List.map_cons, first.map_lower_eq first' line, ih rest rest']

theorem placedIn_map_lower (words : List (List PlacedWord)) :
    (placedIn words).map (Prod.map id PlacedWord.lower) =
      placedIn (words.map (List.map PlacedWord.lower)) := by
  rw [placedIn, placedIn, List.zipIdx_map, List.flatMap_map, List.map_flatMap]
  refine List.flatMap_congr fun line _ => ?_
  show _ = (line.1.map PlacedWord.lower).map fun x => (line.2, x)
  rw [List.map_map, List.map_map]
  rfl

/-- Lowering keeps the places of what is reported. -/
theorem map_place_unknownIn (entries : List (List Char)) (words : List (List PlacedWord)) :
    (unknownIn entries words).map place =
      (unknownIn entries (words.map (List.map PlacedWord.lower))).map place := by
  have unknown : (fun x : Nat × PlacedWord => decide (IsUnknown entries x.2.word)) ∘
      Prod.map id PlacedWord.lower = fun x => decide (IsUnknown entries x.2.word) := by
    funext x
    exact decide_eq_decide.mpr isUnknown_map_toLower
  rw [unknownIn, unknownIn, ← placedIn_map_lower, List.filter_map, unknown, List.map_map]
  rfl

/-- Lines that differ in the case of letters have unknown words in the same places. -/
theorem map_place_unknownIn_of_recased {lines recased : List String}
    (same : List.Forall₂ (fun line other => eqIgnoringAsciiCase line.toList other.toList = true)
      lines recased)
    (areWords : AreWordsOf lines words) (recasedWords : AreWordsOf recased also) :
    (unknownIn entries also).map place = (unknownIn entries words).map place := by
  rw [map_place_unknownIn, map_place_unknownIn entries words,
    map_lower_eq_of_recased same areWords recasedWords]

/-! ### Verdicts -/

theorem Reaches.mono {less more limit : Nat} {set : Option Nat} (le : less ≤ more)
    (reaches : Reaches less set limit) : Reaches more set limit :=
  ⟨reaches.1, reaches.2.1, Nat.le_trans reaches.2.2 le⟩

theorem rank_verdict_mono (settings : Settings) {less more : Nat} (le : less ≤ more) :
    (verdict settings less).1.rank ≤ (verdict settings more).1.rank := by
  have kept {set : Option Nat} {limit : Nat} (reached : reached? less set = some limit) :
      reached? more set = some limit :=
    reached?_eq_some_iff.mpr ((reached?_eq_some_iff.mp reached).mono le)
  cases error : reached? less settings.errorLimit with
  | some limit => rw [verdict, verdict, error, kept error]
  | none =>
    cases warn : reached? less settings.warnLimit with
    | some limit =>
      rw [verdict, verdict, error, warn, kept warn]
      cases reached? more settings.errorLimit with
      | some => exact Nat.le_succ 2
      | none => exact Nat.le_refl 2
    | none =>
      rw [verdict, error, warn]
      exact Nat.zero_le _

theorem reportsAll_resultOf (document : Document) (settings : Settings)
    (words : List (List PlacedWord)) :
    ReportsAll (resultOf document settings (reportsFrom entries 0 words))
      (unknownIn entries words) := by
  rw [reportsFrom_eq_map, ReportsAll, resultOf, List.map_map]
  rfl

/-- The status depends on the number of reports alone. -/
theorem status_resultOf_congr {document recased : Document} (settings : Settings)
    {found found' : List String} (count : found.length = found'.length) :
    (resultOf document settings found).status = (resultOf recased settings found').status := by
  simp only [resultOf, count]

/-- Of the settings, only the limits enter a result. -/
theorem resultOf_congr {settings more : Settings} (warn : more.warnLimit = settings.warnLimit)
    (error : more.errorLimit = settings.errorLimit) (document : Document) (found : List String) :
    resultOf document more found = resultOf document settings found := by
  simp only [resultOf, verdict, warn, error]

/-! ### The check -/

variable {files files' : FileTree} {document : Document} {json json' : Json}
  {settings more : Settings} {dictionary dictionary' : String}

/-- Two checks of a document under the same limits agree if their entries make the same words known,
which they do if they differ in order, in repetitions, in the case of ASCII letters and in where
they are listed. If the second one knows more, its reports are a sublist of those of the first, and
its status ranks no higher. Changing the case of ASCII letters in the document changes neither the
places of the reports nor the status. -/
theorem check_knows_words_as_set (lowering : IsLowering lower)
    (parsed : parseSettings decode json = .ok settings)
    (read : files.readText (settings.dictionary.getD defaultDictionary) = .ok dictionary)
    (parsed' : parseSettings decode json' = .ok more)
    (read' : files'.readText (more.dictionary.getD defaultDictionary) = .ok dictionary')
    (warn : more.warnLimit = settings.warnLimit) (error : more.errorLimit = settings.errorLimit)
    (document : Document) :
    let entries := entriesOf dictionary settings.customWords
    let others := entriesOf dictionary' more.customWords
    ∃ result result', check files document json = .ok result ∧
      check files' document json' = .ok result' ∧
      ((∀ w, MakesKnown lower entries w ↔ MakesKnown lower others w) → result' = result) ∧
      (Covered entries others → Covered others entries → result' = result) ∧
      ((∀ w, MakesKnown lower entries w → MakesKnown lower others w) →
        ∃ reports kept, result.detail = some (.array reports) ∧
          result'.detail = some (.array kept) ∧ kept.Sublist reports ∧
          result'.status.rank ≤ result.status.rank) ∧
      ∀ recased, SameButCase document recased →
        ∃ recheck found found', check files recased json = .ok recheck ∧
          ReportsAll result found ∧ ReportsAll recheck found' ∧
          found'.map place = found.map place ∧ recheck.status = result.status := by
  intro entries others
  obtain ⟨words, areWords⟩ := exists_areWordsOf document.lines
  have first := check_eq_ok parsed read areWords
  have second := check_eq_ok parsed' read' areWords
  rw [resultOf_congr warn error] at second
  have equal {lower} (lowering : IsLowering lower)
      (le : ∀ w, MakesKnown lower entries w → MakesKnown lower others w)
      (ge : ∀ w, MakesKnown lower others w → MakesKnown lower entries w) :
      unknownIn others words = unknownIn entries words :=
    (unknownIn_sublist lowering le areWords).antisymm (unknownIn_sublist lowering ge areWords)
  refine ⟨_, _, first, second, ?set, ?covered, ?more, ?case⟩
  case set =>
    intro same
    rw [reportsFrom_eq_map, reportsFrom_eq_map,
      equal lowering (fun w => (same w).mp) fun w => (same w).mpr]
  case covered =>
    intro covered covers
    have own : IsLowering (List.map lowerChar) := ⟨fun _ _ _ => Iff.rfl⟩
    rw [reportsFrom_eq_map, reportsFrom_eq_map,
      equal own (fun _ => covered.makesKnown) fun _ => covers.makesKnown]
  case more =>
    intro le
    have fewer := unknownIn_sublist lowering le areWords
    rw [reportsFrom_eq_map, reportsFrom_eq_map]
    refine ⟨_, _, rfl, rfl, (fewer.map _).map _, rank_verdict_mono settings ?_⟩
    rw [List.length_map, List.length_map]
    exact fewer.length_le
  case case =>
    intro recased same
    obtain ⟨also, recasedWords⟩ := exists_areWordsOf recased.lines
    have places : (unknownIn entries also).map place = (unknownIn entries words).map place :=
      map_place_unknownIn_of_recased same areWords recasedWords
    have count := congrArg List.length places
    rw [List.length_map, List.length_map] at count
    refine ⟨_, unknownIn entries words, unknownIn entries also,
      check_eq_ok parsed read recasedWords, reportsAll_resultOf _ _ words,
      reportsAll_resultOf _ _ also, places, status_resultOf_congr settings ?_⟩
    rw [reportsFrom_eq_map, reportsFrom_eq_map, List.length_map, List.length_map]
    exact count

private def rhyme : Document := ⟨"rhyme.md", [], "", "", ["The roze is red", "a roze's thorn"]⟩

private def loudRhyme : Document := ⟨"rhyme.md", [], "", "", ["THE roZe is red", "A ROZE's thorn"]⟩

private def listing (customWords : List String) : Json :=
  .object [("dictionary", .string "d"), ("customWords", .array (customWords.map .string)),
    ("warnLimit", .number (.integer 2))]

/-- Entries move between the dictionary and the custom words, are repeated and change their case. -/
theorem check_knows_moved_words :
    ∃ files files' result recheck found found', files.readText "d" = .ok "the\nis\nred\n" ∧
      files'.readText "d" = .ok "Thorn\nRED\n" ∧
      check files rhyme (listing ["thorn", "A"]) = .ok result ∧
      check files' rhyme (listing ["IS", "a", "is", "The"]) = .ok result ∧
      check files loudRhyme (listing ["thorn", "A"]) = .ok recheck ∧
      ReportsAll result found ∧ ReportsAll recheck found' ∧
      found'.map place = found.map place ∧ recheck.status = result.status := by
  have lowering : IsLowering (List.map lowerChar) := ⟨fun _ _ _ => Iff.rfl⟩
  have parsed : parseSettings decode (listing ["thorn", "A"]) =
      .ok ⟨some "d", ["thorn", "A"], some 2, none⟩ := rfl
  have parsed' : parseSettings decode (listing ["IS", "a", "is", "The"]) =
      .ok ⟨some "d", ["IS", "a", "is", "The"], some 2, none⟩ := rfl
  have read : (directoryOf ("the\nis\nred\n".toList.map fun c => c.toNat.toUInt8)).readText "d" =
      .ok "the\nis\nred\n" := readText_directoryOf rfl
  have read' : (directoryOf ("Thorn\nRED\n".toList.map fun c => c.toNat.toUInt8)).readText "d" =
      .ok "Thorn\nRED\n" := readText_directoryOf rfl
  obtain ⟨result, result', first, second, -, covered, -, recase⟩ :=
    check_knows_words_as_set lowering parsed read parsed' read' rfl rfl rhyme
  have same : result' = result := covered (by unfold Covered; decide) (by unfold Covered; decide)
  have recased : SameButCase rhyme loudRhyme := .cons (by decide) (.cons (by decide) .nil)
  obtain ⟨recheck, found, found', third, all, all', places, status⟩ := recase loudRhyme recased
  exact ⟨_, _, result, recheck, found, found', read, read', first, same ▸ second, third, all, all',
    places, status⟩

end DocLint.Checks.Spelling
