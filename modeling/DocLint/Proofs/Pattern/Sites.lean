import DocLint.Pattern.Matching

/-!
# Moving along a text

Matching goes from one site of a text to later ones. A later site is given by what lies between:
moving over a text adds its bytes, and the text between two sites is what was moved over.
-/
namespace DocLint

theorem foldl_utf8Size (s : List Char) (n : Nat) :
    s.foldl (fun n c => n + c.utf8Size) n = n + byteLength s := by
  induction s generalizing n with
  | nil => rfl
  | cons c s ih =>
    rw [byteLength, List.foldl_cons, List.foldl_cons, ih, ih]
    omega

@[simp] theorem byteLength_nil : byteLength [] = 0 := rfl

@[simp] theorem byteLength_cons (c : Char) (s : List Char) :
    byteLength (c :: s) = c.utf8Size + byteLength s := by
  rw [byteLength, List.foldl_cons, foldl_utf8Size, Nat.zero_add]

@[simp] theorem byteLength_append (u v : List Char) :
    byteLength (u ++ v) = byteLength u + byteLength v := by
  induction u with
  | nil => simp
  | cons c u ih => rw [List.cons_append, byteLength_cons, byteLength_cons, ih, Nat.add_assoc]

theorem byteLength_pos {u : List Char} (some : u ≠ []) : 0 < byteLength u := by
  cases u with
  | nil => exact absurd rfl some
  | cons c u =>
    rw [byteLength_cons]
    exact Nat.add_pos_left c.utf8Size_pos _

theorem takeBytes_byteLength (u r : List Char) : takeBytes (byteLength u) (u ++ r) = u := by
  induction u with
  | nil =>
    cases r with
    | nil => rfl
    | cons c r => simp [takeBytes, c.utf8Size_pos]
  | cons c u ih =>
    rw [List.cons_append, takeBytes, byteLength_cons, if_neg (by omega), Nat.add_sub_cancel_left, ih]

namespace Site

/-- The site after a text, which the rest of the site starts with. -/
def past (s : Site) (u : List Char) : Site where
  before := u.getLast?.or s.before
  rest := s.rest.drop u.length
  offset := s.offset + byteLength u

variable {s : Site} {u v r : List Char}

@[simp] theorem past_nil (s : Site) : s.past [] = s := by
  simp [past]

theorem past_past (s : Site) (u v : List Char) : (s.past u).past v = s.past (u ++ v) := by
  simp only [past, List.getLast?_append, Option.or_assoc, List.drop_drop, List.length_append,
    byteLength_append, Nat.add_assoc]

theorem rest_past (rest : s.rest = u ++ r) : (s.past u).rest = r := by
  rw [past, rest, List.drop_left]

theorem before_past_ne_none (inner : s.before ≠ none) (u : List Char) :
    (s.past u).before ≠ none := by
  simp [past, inner]

theorem after_eq_past {c : Char} (rest : s.rest = c :: r) : s.after c r = s.past [c] := by
  simp [past, after, rest]

theorem offset_lt_past (more : u ≠ []) : s.offset < (s.past u).offset := by
  have := byteLength_pos more
  simp only [past]
  omega

theorem textTo_past (rest : s.rest = u ++ r) : s.textTo (s.past u) = u := by
  rw [textTo, past, Nat.add_sub_cancel_left, rest, takeBytes_byteLength]

/-- The text from a site on, up to a later site that was reached after more text. -/
theorem textTo_past_past (rest : s.rest = u ++ (v ++ r)) :
    (s.past u).textTo (s.past (u ++ v)) = v := by
  rw [← past_past, textTo_past (rest_past rest)]

end Site

namespace Cursor

def past (c : Cursor) (u : List Char) : Cursor := { c with toSite := c.toSite.past u }

variable {c : Cursor} {u r : List Char}

@[simp] theorem past_nil (c : Cursor) : c.past [] = c := by
  rw [past, Site.past_nil]

@[simp] theorem toSite_past (c : Cursor) (u : List Char) :
    (c.past u).toSite = c.toSite.past u := rfl

@[simp] theorem groups_past (c : Cursor) (u : List Char) : (c.past u).groups = c.groups := rfl

theorem past_past (c : Cursor) (u v : List Char) : (c.past u).past v = c.past (u ++ v) := by
  simp only [past, Site.past_past]

theorem rest_past (rest : c.rest = u ++ r) : (c.past u).rest = r :=
  Site.rest_past rest

theorem after_eq_past {x : Char} (rest : c.rest = x :: r) : c.after x r = c.past [x] := by
  rw [after, past, Site.after_eq_past rest]

@[simp] theorem toSite_remember (c : Cursor) (index : Nat) (d : Cursor) :
    (c.remember index d).toSite = d.toSite := rfl

@[simp] theorem groups_remember (c : Cursor) (index : Nat) (d : Cursor) :
    (c.remember index d).groups = (index, ⟨c.toSite, d.toSite⟩) :: d.groups := rfl

@[simp] theorem toSite_ofSite (s : Site) : (ofSite s).toSite = s := rfl

@[simp] theorem groups_ofSite (s : Site) : (ofSite s).groups = [] := rfl

end Cursor
end DocLint
