/-! # Lengths in UTF-8

`bytePrefix?` cuts a text after a number of bytes, where a character ends there. -/

namespace Interaction

/-- The number of bytes that a text takes. -/
def utf8Length : List Char → Nat
  | [] => 0
  | c :: cs => c.utf8Size + utf8Length cs

@[simp] theorem utf8Length_nil : utf8Length [] = 0 := rfl

@[simp] theorem utf8Length_cons (c : Char) (cs : List Char) :
    utf8Length (c :: cs) = c.utf8Size + utf8Length cs := rfl

@[simp] theorem utf8Length_append (p q : List Char) :
    utf8Length (p ++ q) = utf8Length p + utf8Length q := by
  induction p with
  | nil => simp
  | cons c p ih => simp [ih, Nat.add_assoc]

theorem utf8Length_eq (cs : List Char) : utf8Length cs = (String.ofList cs).utf8ByteSize := by
  induction cs with
  | nil => rfl
  | cons c cs ih =>
    rw [utf8Length_cons, ih, ← List.singleton_append, String.ofList_append,
      String.utf8ByteSize_append, ← String.singleton_eq_ofList, String.utf8ByteSize_singleton]

/-- The front of `cs` that takes exactly `n` bytes, if a character ends there. -/
def bytePrefix? : Nat → List Char → Option (List Char)
  | 0, _ => some []
  | _ + 1, [] => none
  | n + 1, c :: cs =>
    if c.utf8Size ≤ n + 1 then (bytePrefix? (n + 1 - c.utf8Size) cs).map (c :: ·) else none

theorem bytePrefix?_eq_some {n : Nat} {cs p : List Char} :
    bytePrefix? n cs = some p ↔ p <+: cs ∧ utf8Length p = n := by
  fun_induction bytePrefix? n cs generalizing p with
  | case1 cs =>
    refine ⟨fun h => by cases h; simp, fun ⟨_, h⟩ => ?_⟩
    cases p with
    | nil => rfl
    | cons c p => have := c.utf8Size_pos; simp at h; omega
  | case2 n =>
    refine ⟨fun h => (by cases h), fun ⟨h, h'⟩ => ?_⟩
    rw [List.prefix_nil.mp h] at h'
    cases h'
  | case3 n c cs hc ih =>
    cases p with
    | nil => simp
    | cons d p =>
      simp only [Option.map_eq_some_iff, ih, List.cons.injEq, List.cons_prefix_cons,
        utf8Length_cons]
      constructor
      · rintro ⟨q, ⟨hq, hs⟩, rfl, rfl⟩
        exact ⟨⟨rfl, hq⟩, by omega⟩
      · rintro ⟨⟨rfl, hq⟩, hs⟩
        exact ⟨p, ⟨hq, by omega⟩, rfl, rfl⟩
  | case4 n c cs hc =>
    refine ⟨fun h => (by cases h), fun ⟨h, h'⟩ => ?_⟩
    cases p with
    | nil => simp at h'
    | cons d p =>
      obtain ⟨rfl, -⟩ := List.cons_prefix_cons.mp h
      simp only [utf8Length_cons] at h'
      omega

end Interaction
