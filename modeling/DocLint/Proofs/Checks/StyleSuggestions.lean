import DocLint.Checks.WriteGood
import DocLint.Proofs.Prose.Suggestions
import Mathlib.Data.List.Basic

/-!
# The style suggestions for a document

The check lists the suggestions for every line of a document and counts them. Settings that switch
more heuristics off, or that raise a limit, never turn its annotation into a warning.
-/
namespace DocLint.Checks.WriteGood

open Prose

/-- The result counts and lists the suggestions for the lines of a document, as a warning from the
limit on. -/
structure Lists (document : Document) (settings : Settings) (result : CheckResult)
    (entries : List String) : Prop where
  listed : entries = document.lines.zipIdx.flatMap fun (line, index) =>
    (suggest settings.options line.toList).map (describe index)
  detail : result.detail = some (.array (entries.map Json.string))
  message : result.message = "Found " ++ toString entries.length ++ " suggestions"
  warn_iff : result.status = .warn ↔ settings.limit ≤ entries.length
  info_iff : result.status = .info ↔ entries.length < settings.limit

/-- The other settings switch off what these do, and keep their limit or raise a positive one. -/
structure Settings.Calms (settings other : Settings) : Prop where
  off : ∀ h ∈ heuristics, settings.options.lookup h.key = some false →
    other.options.lookup h.key = some false
  limit : other.warnLimit = settings.warnLimit ∨
    ∃ low high, settings.warnLimit = some low ∧ 0 < low ∧ low ≤ high ∧ other.warnLimit = some high

variable {settings other : Settings} {json : Json}

theorem Settings.Calms.limit_le (calms : settings.Calms other) : settings.limit ≤ other.limit := by
  rcases calms.limit with same | ⟨low, high, before, some, le, after⟩
  · refine Nat.le_of_eq ?_
    rw [Settings.limit, Settings.limit, same]
  · obtain ⟨n, rfl⟩ := Nat.exists_eq_add_of_lt some
    obtain ⟨m, rfl⟩ := Nat.exists_eq_add_of_lt (Nat.lt_of_lt_of_le some le)
    rw [Settings.limit, Settings.limit, before, after]
    exact le

/-- What is switched off leaves fewer suggestions, in the same order. -/
theorem sublist_suggest {switches others : Switches}
    (off : ∀ h ∈ heuristics, switches.lookup h.key = some false → others.lookup h.key = some false)
    (line : List Char) : (suggest others line).Sublist (suggest switches line) := by
  rw [suggest_eq, suggest_eq]
  refine List.Sublist.map _ ?_
  have stays (f : Finding) (member : f ∈ mergedFindings line)
      (on : (others.lookup f.heuristic.key != some false) = true) :
      (switches.lookup f.heuristic.key != some false) = true := by
    rw [bne_iff_ne] at on ⊢
    exact fun isOff => on (off _ (List.fst_mem_of_mem_zipIdx (mem_mergedFindings.mp member).1) isOff)
  have again : (mergedFindings line).filter (fun f => others.lookup f.heuristic.key != some false) =
      ((mergedFindings line).filter fun f => switches.lookup f.heuristic.key != some false).filter
        fun f => others.lookup f.heuristic.key != some false := by
    rw [List.filter_filter]
    refine List.filter_congr fun f member => ?_
    cases on : (others.lookup f.heuristic.key != some false) with
    | false => rfl
    | true => rw [stays f member on, Bool.and_true]
  rw [again]
  exact List.filter_sublist

theorem suggestions_eq (switches : Switches) (lines : List String) (first : Nat) :
    suggestions switches first lines = (lines.zipIdx first).flatMap fun (line, index) =>
      (suggest switches line.toList).map (describe index) := by
  induction lines generalizing first with
  | nil => rfl
  | cons line lines ih => rw [suggestions, ih, List.zipIdx_cons, List.flatMap_cons]

theorem sublist_suggestions {switches others : Switches}
    (off : ∀ h ∈ heuristics, switches.lookup h.key = some false → others.lookup h.key = some false)
    (lines : List String) (first : Nat) :
    (suggestions others first lines).Sublist (suggestions switches first lines) := by
  induction lines generalizing first with
  | nil => exact .slnil
  | cons line lines ih => exact ((sublist_suggest off line.toList).map _).append (ih _)

theorem check_lists (read : decode json = .ok settings) (document : Document) :
    ∃ result, check document json = .ok result ∧
      Lists document settings result (suggestions settings.options 0 document.lines) := by
  rw [check, parseSettings, read]
  refine ⟨_, rfl, suggestions_eq _ _ _, rfl, rfl, ?warn, ?info⟩
  case warn =>
    rw [ite_eq_left_iff]
    simp
  case info =>
    rw [ite_eq_right_iff]
    simp

/-- In every line the suggestions of all heuristics are merged by place and heuristic, each points
to a part of the line that is not empty and quotes it in its reason, and switches take the
suggestions of the heuristics that they switch off out of the merged list, whatever else they say.
The check lists and counts the suggestions for the lines of a document; settings that switch off
more heuristics or raise a positive limit never turn its annotation into a warning. -/
theorem check_lists_merged_suggestions (read : decode json = .ok settings) (document : Document) :
    (∀ line, ∃ merged, IsMerger line merged ∧ suggest [] line = merged.map (·.suggestion) ∧
      ∀ switches, suggest switches line = (merged.filter fun f =>
        switches.lookup f.heuristic.key != some false).map (·.suggestion)) ∧
    (∀ switches line, ∀ s ∈ suggest switches line,
      0 < s.length ∧ s.offset + s.length ≤ byteLength line) ∧
    (∀ switches others line, (∀ h ∈ heuristics, switches.lookup h.key = others.lookup h.key) →
      suggest switches line = suggest others line) ∧
    ∃ result entries, check document json = .ok result ∧
      Lists document settings result entries ∧
      ∀ otherJson other, decode otherJson = .ok other → settings.Calms other →
        result.status = .info →
        ∃ result', check document otherJson = .ok result' ∧ result'.status = .info := by
  refine ⟨fun line => ?merge, fun switches line s member => ?place,
    fun switches others line same => ?same, ?lists⟩
  case merge =>
    refine ⟨mergedFindings line, isMerger_mergedFindings line, ?_, fun switches =>
      suggest_eq switches line⟩
    rw [suggest_eq]
    exact congrArg _ (List.filter_eq_self.mpr fun _ _ => rfl)
  case place =>
    rw [suggest_eq] at member
    obtain ⟨f, kept, rfl⟩ := List.mem_map.mp member
    obtain ⟨before, text, after, marks, -⟩ :=
      (isMerger_mergedFindings line).placed f (List.mem_filter.mp kept).1
    exact ⟨marks.length_pos, marks.offset_add_length_le⟩
  case same =>
    rw [suggest_eq, suggest_eq]
    refine congrArg _ (List.filter_congr fun f member => ?_)
    rw [same _ (List.fst_mem_of_mem_zipIdx (mem_mergedFindings.mp member).1)]
  case lists =>
    obtain ⟨result, checked, lists⟩ := check_lists read document
    refine ⟨result, _, checked, lists, fun otherJson other readOther calms info => ?_⟩
    obtain ⟨result', checked', lists'⟩ := check_lists readOther document
    refine ⟨result', checked', lists'.info_iff.mpr ?_⟩
    have fewer := (sublist_suggestions calms.off document.lines 0).length_le
    have few := lists.info_iff.mp info
    have limits := calms.limit_le
    omega

/-- A repeated word at the start of the only line is two suggestions. -/
theorem check_stays_info_for_calmer_settings :
    let document : Document := ⟨"a.md", [], "So so", "So so", ["So so"]⟩
    let settings : Json := .object [("warnLimit", .number (.integer 3))]
    let calmer : Json := .object [("options", .object [("illusion", .bool false)]),
      ("warnLimit", .number (.integer 4))]
    ∃ result result', check document settings = .ok result ∧ check document calmer = .ok result' ∧
      result.message = "Found 2 suggestions" ∧ result.status = .info ∧ result'.status = .info := by
  intro document settings calmer
  have read : decode settings = .ok ⟨some 3, []⟩ := rfl
  have readCalmer : decode calmer = .ok ⟨some 4, [("illusion", false)]⟩ := rfl
  obtain ⟨-, -, -, result, entries, checked, lists, stays⟩ :=
    check_lists_merged_suggestions read document
  have two : entries.length = 2 := by
    have found : ((heuristics.filter (isOn [])).flatMap (·.suggest "So so".toList)).length = 2 := by
      decide
    have line : document.lines = ["So so"] := rfl
    rw [lists.listed, line]
    simpa [suggest] using found
  have info : result.status = .info := lists.info_iff.mpr (by rw [two]; decide)
  have calms : Settings.Calms ⟨some 3, []⟩ ⟨some 4, [("illusion", false)]⟩ :=
    ⟨fun h _ isOff => (by cases isOff), .inr ⟨3, 4, rfl, by decide, by decide, rfl⟩⟩
  obtain ⟨result', checked', info'⟩ := stays _ _ readCalmer calms info
  exact ⟨result, result', checked, checked', by rw [lists.message, two]; rfl, info, info'⟩

end DocLint.Checks.WriteGood
