import DocLint.Proofs.Checks.Misspellings
import DocLint.Proofs.Prose.Tokens
import DocLint.Proofs.Text.Trimming

/-!
# Listed words

A dictionary can list any text, while only runs of ASCII letters that are joined by apostrophes are
looked up. What is reported inside a text between blanks depends on its own words, so that a listed
text is accepted if it is a word as a whole, and if it has no ASCII letter. Of any other text the
parts are looked up, each of which has to be listed for itself.
-/
namespace DocLint.Checks.Spelling

open Prose Unicode

variable {entries : List (List Char)} {w token before after : List Char} {files : FileTree}
  {document : Document} {json : Json} {result : CheckResult} {settings : Settings}
  {dictionary : String} {index : Nat} {line : String}

/-! ### Reports between blanks -/

/-- A word is reported that overlaps the bytes from `start` up to `stop` of a line. -/
def ReportsWithin (result : CheckResult) (index start stop : Nat) : Prop :=
  ∃ reports p, result.detail = some (.array reports) ∧ .string (report index p) ∈ reports ∧
    p.start < stop ∧ start < p.stop

/-- What is reported inside a text between blanks are the unknown ones of its own words. -/
theorem reportsWithin_iff (completes : check files document json = .ok result)
    (parsed : parseSettings decode json = .ok settings)
    (read : files.readText (settings.dictionary.getD defaultDictionary) = .ok dictionary)
    (lineAt : document.lines[index]? = some line)
    (split : line.toList = before ++ (token ++ after))
    (front : ∀ c ∈ before.getLast?, Text.isBlank c = true)
    (back : ∀ c ∈ after.head?, Text.isBlank c = true) :
    ReportsWithin result index (byteLength before) (byteLength (before ++ token)) ↔
      ∃ p : PlacedWord, p.StandsIn (byteLength before) token ∧
        IsUnknown (entriesOf dictionary settings.customWords) p.word := by
  have reported := reported_iff completes parsed read lineAt
  rw [split] at reported
  have inside (p : PlacedWord) : (p.StandsIn 0 (before ++ (token ++ after)) ∧
      p.start < byteLength (before ++ token) ∧ byteLength before < p.stop) ↔
        p.StandsIn (byteLength before) token := by
    simpa using standsIn_token_iff (n := 0) front back
  constructor
  · rintro ⟨reports, p, detail, member, startsBefore, stopsAfter⟩
    obtain ⟨stands, unknown⟩ := (reported p).mp ⟨reports, detail, member⟩
    exact ⟨p, (inside p).mp ⟨stands, startsBefore, stopsAfter⟩, unknown⟩
  · rintro ⟨p, stands, unknown⟩
    obtain ⟨stands, startsBefore, stopsAfter⟩ := (inside p).mpr stands
    obtain ⟨reports, detail, member⟩ := (reported p).mpr ⟨stands, unknown⟩
    exact ⟨reports, p, detail, member, startsBefore, stopsAfter⟩

/-! ### Accepted texts -/

/-- Wherever a check lists the text, as a line of the dictionary or as a custom word, and the text
stands between blanks in a line of the document, in any case of its ASCII letters, nothing is
reported inside it. -/
def IsAccepted (w : List Char) : Prop :=
  ∀ files document json result settings dictionary,
    check files document json = .ok result →
    parseSettings decode json = .ok settings →
    files.readText (settings.dictionary.getD defaultDictionary) = .ok dictionary →
    (∃ entry ∈ entriesOf dictionary settings.customWords, Text.trim entry = w) →
    ∀ index line before token after, document.lines[index]? = some line →
      line.toList = before ++ (token ++ after) →
      (∀ c ∈ before.getLast?, Text.isBlank c = true) →
      (∀ c ∈ after.head?, Text.isBlank c = true) →
      eqIgnoringAsciiCase token w = true →
      ¬ReportsWithin result index (byteLength before) (byteLength (before ++ token))

/-- Texts that differ in the case of ASCII letters have the same lower case. -/
theorem map_lowerChar_eq (same : eqIgnoringAsciiCase token w = true) :
    token.map lowerChar = w.map lowerChar := by
  have lower : lowerChar = (fun c => if c == '\u212a' then 'k' else c) ∘ Char.toLower := by
    funext c
    have kelvin : c.toLower = '\u212a' ↔ c = '\u212a' := toLower_eq_iff (by decide)
    by_cases same : c = '\u212a'
    · subst same; decide
    · simp [lowerChar, same, kelvin]
  rw [lower, ← List.map_map, beq_iff_eq.mp same, List.map_map]

theorem not_isUnknown_of_listed {entry : List Char} (member : entry ∈ entries)
    (trimmed : Text.trim entry = w) (some : w ≠ []) (same : eqIgnoringAsciiCase token w = true) :
    ¬IsUnknown entries token := by
  rintro ⟨unlisted, -⟩
  exact unlisted ⟨entry, member, trimmed ▸ some, by rw [trimmed, map_lowerChar_eq same]⟩

theorem isAccepted_of_isWord (word : IsWord w) : IsAccepted w := by
  intro files document json result settings dictionary completes parsed read listed
    index line before token after lineAt split front back same within
  obtain ⟨entry, member, trimmed⟩ := listed
  obtain ⟨p, stands, unknown⟩ :=
    (reportsWithin_iff completes parsed read lineAt split front back).mp within
  have tokenWord : IsWord token := by
    rwa [← isWord_map_toLower, beq_iff_eq.mp same, isWord_map_toLower]
  rw [tokenWord.eq_of_standsIn stands] at unknown
  exact not_isUnknown_of_listed member trimmed word.ne_nil same unknown

theorem isAccepted_of_no_letter (none : ∀ c ∈ w, isAsciiLetter c = false) : IsAccepted w := by
  intro files document json result settings dictionary completes parsed read listed
    index line before token after lineAt split front back same within
  obtain ⟨p, ⟨b, a, rfl, -, -, -, word, -⟩, -⟩ :=
    (reportsWithin_iff completes parsed read lineAt split front back).mp within
  obtain ⟨c, r, spelled, letter⟩ := word.exists_cons
  have lowered : c.toLower ∈ w.map Char.toLower := by
    rw [← beq_iff_eq.mp same]
    exact List.mem_map_of_mem (by simp [spelled])
  obtain ⟨d, inside, same⟩ := List.mem_map.mp lowered
  rw [← isAsciiLetter_toLower, ← same, isAsciiLetter_toLower, none d inside] at letter
  cases letter

/-! ### Refused texts -/

/-- If nothing else is listed, then a part of the text is unknown. -/
theorem isUnknown_of_shorter {word : List Char} (solid : ∀ c ∈ w, Text.isBlank c = false)
    (shorter : word.length < w.length) : IsUnknown [w] word := by
  have unlisted {lower : List Char} (shorter : lower.length < w.length) : ¬Listed [w] lower := by
    rintro ⟨entry, member, -, rfl⟩
    rw [List.mem_singleton.mp member, Text.trim_eq_self solid, List.length_map] at shorter
    exact Nat.lt_irrefl _ shorter
  refine ⟨unlisted (by simpa using shorter), fun _ => unlisted ?_⟩
  rw [List.length_map]
  exact Nat.lt_of_le_of_lt (List.takeWhile_sublist _).length_le shorter

theorem length_lt_of_standsIn {p : PlacedWord} {n : Nat} (other : ¬IsWord w)
    (stands : p.StandsIn n w) : p.word.length < w.length := by
  obtain ⟨b, a, rfl, -, -, -, word, -⟩ := stands
  by_contra long
  simp only [List.length_append, not_lt] at long
  have front : b = [] := List.length_eq_zero_iff.mp (by omega)
  have back : a = [] := List.length_eq_zero_iff.mp (by omega)
  rw [front, back, List.nil_append, List.append_nil] at other
  exact other word

/-- The text is refused as the only custom word, in a document whose only line it is. -/
theorem not_isAccepted {c : Char} (solid : ∀ c ∈ w, Text.isBlank c = false) (other : ¬IsWord w)
    (inside : c ∈ w) (letter : isAsciiLetter c = true) : ¬IsAccepted w := by
  intro accepted
  have read : (directoryOf []).readText "d" = .ok "" := readText_directoryOf rfl
  have parsed : parseSettings decode (.object [("dictionary", .string "d"),
      ("customWords", .array [.string (String.ofList w)])]) =
        .ok ⟨some "d", [String.ofList w], none, none⟩ := rfl
  let document : Document := ⟨"", [], "", "", [String.ofList w]⟩
  obtain ⟨words, areWords⟩ := exists_areWordsOf document.lines
  have completes := check_eq_ok parsed read areWords
  have entries : entriesOf "" [String.ofList w] = [w] := by
    simp [entriesOf, Text.lines, Text.splitAfter]
  obtain ⟨p, stands⟩ := exists_standsIn 0 inside letter
  have unknown : IsUnknown (entriesOf "" [String.ofList w]) p.word := by
    rw [entries]
    exact isUnknown_of_shorter solid (length_lt_of_standsIn other stands)
  have split : (String.ofList w).toList = [] ++ (w ++ []) := by simp
  have lineAt : document.lines[0]? = some (String.ofList w) := rfl
  have within := (reportsWithin_iff completes parsed read lineAt split (by simp) (by simp)).mpr
    ⟨p, stands, unknown⟩
  exact accepted _ _ _ _ _ _ completes parsed read
    ⟨w, by rw [entries]; exact List.mem_singleton_self w, Text.trim_eq_self solid⟩
    0 _ [] w [] lineAt split (by simp) (by simp) (beq_self_eq_true _) within

/-- Exactly the words and the texts without ASCII letters are accepted wherever they are listed. -/
theorem isAccepted_iff (solid : ∀ c ∈ w, Text.isBlank c = false) :
    IsAccepted w ↔ IsWord w ∨ ∀ c ∈ w, isAsciiLetter c = false := by
  constructor
  · intro accepted
    by_cases none : ∀ c ∈ w, isAsciiLetter c = false
    · exact .inr none
    · simp only [not_forall, Bool.not_eq_false] at none
      obtain ⟨c, inside, letter⟩ := none
      exact .inl (Classical.byContradiction fun other =>
        not_isAccepted solid other inside letter accepted)
  · rintro (word | none)
    · exact isAccepted_of_isWord word
    · exact isAccepted_of_no_letter none

theorem isAccepted_contraction_not_hyphenated :
    IsAccepted "don't".toList ∧ ¬IsAccepted "well-known".toList := by
  constructor
  · exact (isAccepted_iff (forall_mem_of_all (by decide))).mpr
      (.inl (.cons rfl (.cons rfl (.join rfl (.letter rfl)))))
  · intro accepted
    rcases (isAccepted_iff (forall_mem_of_all (by decide))).mp accepted with word | none
    · exact absurd (word.letter_or_apostrophe (c := '-') (by decide)) (by decide)
    · exact absurd (none 'w' (by decide)) (by decide)

private def coffee : Document := ⟨"doc.md", [], "caf\u00e9", "caf\u00e9", ["caf\u00e9"]⟩

/-- The dictionary lists the only word of the document, whose last letter is not ASCII. -/
theorem check_reports_part_of_listed_word :
    ∃ files result, files.readText "d" = .ok "caf\u00e9\n" ∧
      check files coffee (.object [("dictionary", .string "d")]) = .ok result ∧
      result.detail = some (.array [.string "Line 0: Position: 0:3 caf is misspelled"]) := by
  have read : (directoryOf [99, 97, 102, 195, 169, 10]).readText "d" = .ok "caf\u00e9\n" :=
    readText_directoryOf rfl
  have parsed : parseSettings decode (.object [("dictionary", .string "d")]) =
      .ok ⟨some "d", [], none, none⟩ := rfl
  have words : AreWordsOf coffee.lines [[⟨0, 3, "caf".toList⟩]] :=
    .cons (areWords_allMatches _) .nil
  have reports : reportsFrom (entriesOf "caf\u00e9\n" []) 0 [[⟨0, 3, "caf".toList⟩]] =
      ["Line 0: Position: 0:3 caf is misspelled"] := by decide
  refine ⟨_, _, read, check_eq_ok parsed read words, ?_⟩
  rw [resultOf, reports]
  rfl

end DocLint.Checks.Spelling
