import Mathlib.Data.List.Fold
import Mathlib.Order.Bounds.Basic
import Interaction.Width.Body

/-!
# A body is as wide as its widest leaf

The items that hold no others are the leaves of a body. A leaf `depth` groups deep is set in by
`2 * depth` columns (`Leaf`), and the width of a body is the greatest that its leaves reach
(`isGreatest_widest`). So the leaves are all that matters: whatever keeps them keeps the width, and
whatever adds some does not lower it (`contentWidth_mono`).
-/

namespace Interaction

/-- Columns of an item that holds no others. -/
def Item.ownColumns? : Item → Option Nat
  | .topic t | .subtopic t | .why t | .effect t => some (multilineWidth t)
  | .binding b => some (displayWidth b.name + 3 + displayWidth b.value)
  | .utterance u => some (multilineWidth u.text + 4)
  | .event e => some (multilineWidth e.trigger + 6)
  | .flow .. => none

/-- A leaf of `w` columns stands `depth` groups deep in the items. -/
inductive Leaf : List Item → Nat → Nat → Prop
  | here {is : List Item} {i : Item} {w : Nat} (hi : i ∈ is) (hw : i.ownColumns? = some w) :
    Leaf is 0 w
  | inside {is children : List Item} {g : Grouping} {name condition : Option String}
      {depth w : Nat} (hi : .flow g name condition children ∈ is) (h : Leaf children depth w) :
    Leaf is (depth + 1) w

variable {is js : List Item} {i : Item} {g : Grouping} {name condition : Option String}
  {depth w indent : Nat}

namespace Leaf

theorem mono (h : Leaf is depth w) (hsub : is ⊆ js) : Leaf js depth w := by
  cases h with
  | here hi hw => exact .here (hsub hi) hw
  | inside hi h => exact .inside (hsub hi) h

end Leaf

@[simp] theorem not_leaf_nil : ¬ Leaf [] depth w := by
  intro h
  cases h with
  | here hi => cases hi
  | inside hi => cases hi

theorem leaf_append : Leaf (is ++ js) depth w ↔ Leaf is depth w ∨ Leaf js depth w := by
  constructor
  · intro h
    cases h with
    | here hi hw => exact (List.mem_append.1 hi).imp (.here · hw) (.here · hw)
    | inside hi h => exact (List.mem_append.1 hi).imp (.inside · h) (.inside · h)
  · rintro (h | h)
    · exact h.mono (List.subset_append_left is js)
    · exact h.mono (List.subset_append_right is js)

theorem leaf_cons : Leaf (i :: is) depth w ↔ Leaf [i] depth w ∨ Leaf is depth w := by
  rw [← List.singleton_append, leaf_append]

theorem leaf_flow :
    Leaf [.flow g name condition is] depth w ↔ ∃ n, depth = n + 1 ∧ Leaf is n w := by
  constructor
  · intro h
    cases h with
    | here hi hw =>
      obtain rfl := List.mem_singleton.1 hi
      cases hw
    | inside hi h =>
      cases List.mem_singleton.1 hi
      exact ⟨_, rfl, h⟩
  · rintro ⟨n, rfl, h⟩
    exact .inside (List.mem_singleton_self _) h

theorem leaf_of_own (h : i.ownColumns? = some w) {v : Nat} :
    Leaf [i] depth v ↔ depth = 0 ∧ v = w := by
  constructor
  · intro hleaf
    cases hleaf with
    | here hi hv =>
      obtain rfl := List.mem_singleton.1 hi
      exact ⟨rfl, Option.some.inj (hv.symm.trans h)⟩
    | inside hi =>
      obtain rfl := List.mem_singleton.1 hi
      cases h
  · rintro ⟨rfl, rfl⟩
    exact .here (List.mem_singleton_self i) h

/-! ### The widths that leaves reach -/

/-- How far the leaves reach if the items are set in by `indent`. -/
def reaches (indent : Nat) (is : List Item) : Set Nat :=
  {n | ∃ depth w, Leaf is depth w ∧ n = indent + 2 * depth + w}

theorem reaches_nil : reaches indent [] = ∅ := by
  simp [reaches]

theorem reaches_cons : reaches indent (i :: is) = reaches indent [i] ∪ reaches indent is := by
  ext n
  constructor
  · rintro ⟨depth, w, h, rfl⟩
    exact (leaf_cons.1 h).imp (⟨depth, w, ·, rfl⟩) (⟨depth, w, ·, rfl⟩)
  · rintro (⟨depth, w, h, rfl⟩ | ⟨depth, w, h, rfl⟩)
    · exact ⟨depth, w, leaf_cons.2 (.inl h), rfl⟩
    · exact ⟨depth, w, leaf_cons.2 (.inr h), rfl⟩

theorem reaches_flow :
    reaches indent [.flow g name condition is] = reaches (indent + 2) is := by
  ext n
  constructor
  · rintro ⟨_, w, h, rfl⟩
    obtain ⟨depth, rfl, hchild⟩ := leaf_flow.1 h
    exact ⟨depth, w, hchild, by omega⟩
  · rintro ⟨depth, w, h, rfl⟩
    exact ⟨depth + 1, w, leaf_flow.2 ⟨depth, rfl, h⟩, by omega⟩

theorem reaches_of_own (h : i.ownColumns? = some w) : reaches indent [i] = {indent + w} := by
  ext n
  simp [reaches, leaf_of_own h]

theorem Item.columns_of_own (h : i.ownColumns? = some w) : i.columns indent = indent + w := by
  cases i <;> simp only [ownColumns?, Option.some.injEq, reduceCtorEq] at h <;>
    rw [columns] <;> omega

theorem isGreatest_of_own (h : i.ownColumns? = some w) :
    IsGreatest (insert 0 (reaches indent [i])) (i.columns indent) := by
  have hpair : IsGreatest {0, indent + w} (max 0 (indent + w)) := isGreatest_pair
  rw [Nat.zero_max] at hpair
  rwa [reaches_of_own h, Item.columns_of_own h]

mutual

theorem isGreatest_columns (indent : Nat) : (i : Item) →
    IsGreatest (insert 0 (reaches indent [i])) (i.columns indent)
  | .topic _ => isGreatest_of_own rfl
  | .subtopic _ => isGreatest_of_own rfl
  | .binding _ => isGreatest_of_own rfl
  | .why _ => isGreatest_of_own rfl
  | .effect _ => isGreatest_of_own rfl
  | .flow _ _ _ children => by
    rw [reaches_flow, Item.columns]
    exact isGreatest_widest (indent + 2) children
  | .utterance _ => isGreatest_of_own rfl
  | .event _ => isGreatest_of_own rfl

/-- The width of items that are set in is the greatest that a leaf reaches. -/
theorem isGreatest_widest (indent : Nat) : (is : List Item) →
    IsGreatest (insert 0 (reaches indent is)) (Item.widest indent is)
  | [] => by
    rw [reaches_nil, insert_empty_eq]
    exact isGreatest_singleton
  | i :: is => by
    rw [reaches_cons, Set.insert_union_distrib, Item.widest]
    exact (isGreatest_columns indent i).union (isGreatest_widest indent is)

end

/-! ### The width of a body -/

theorem isGreatest_contentWidth (is : List Item) :
    IsGreatest (insert 0 (reaches 0 is)) (contentWidth is) := isGreatest_widest 0 is

theorem contentWidth_mono (h : ∀ depth w, Leaf is depth w → Leaf js depth w) :
    contentWidth is ≤ contentWidth js := by
  refine (isGreatest_contentWidth is).mono (isGreatest_contentWidth js) ?_
  refine Set.insert_subset_insert ?_
  rintro _ ⟨depth, w, hleaf, rfl⟩
  exact ⟨depth, w, h depth w hleaf, rfl⟩

theorem contentWidth_congr (h : ∀ depth w, Leaf is depth w ↔ Leaf js depth w) :
    contentWidth is = contentWidth js :=
  Nat.le_antisymm (contentWidth_mono fun depth w => (h depth w).1)
    (contentWidth_mono fun depth w => (h depth w).2)

/-- With a leaf at all, the width is one that a leaf reaches, even if it is zero. -/
theorem contentWidth_mem_reaches (h : Leaf is depth w) : contentWidth is ∈ reaches 0 is := by
  obtain ⟨hmem, hle⟩ := isGreatest_contentWidth is
  have hreach : 0 + 2 * depth + w ∈ reaches 0 is := ⟨depth, w, h, rfl⟩
  rcases hmem with hzero | hmem
  · have hnone : 0 + 2 * depth + w = contentWidth is := by
      have := hle (.inr hreach)
      omega
    rwa [hnone] at hreach
  · exact hmem

theorem contentWidth_flow (h : Leaf is depth w) :
    contentWidth [.flow g name condition is] = contentWidth is + 2 := by
  have hgroup := isGreatest_contentWidth [.flow g name condition is]
  rw [reaches_flow] at hgroup
  refine hgroup.unique ⟨.inr ?_, ?_⟩
  · obtain ⟨depth, w, hleaf, heq⟩ := contentWidth_mem_reaches h
    exact ⟨depth, w, hleaf, by omega⟩
  · rintro _ (rfl | ⟨depth, w, hleaf, rfl⟩)
    · exact Nat.zero_le _
    · have := (isGreatest_contentWidth is).2 (.inr ⟨depth, w, hleaf, rfl⟩)
      omega

/-! ### Other bodies with the same leaves, or with more -/

/-- The same items, among which some that stand in one place have changed their order. -/
inductive Reordered : List Item → List Item → Prop
  | here {is js : List Item} (h : is.Perm js) : Reordered is js
  | inside {is js : List Item} (front back : List Item) (g : Grouping)
      (name condition : Option String) (h : Reordered is js) :
    Reordered (front ++ .flow g name condition is :: back)
      (front ++ .flow g name condition js :: back)
  | trans {is js ks : List Item} (h : Reordered is js) (h' : Reordered js ks) : Reordered is ks

/-- The second items are the first with one more, which may stand in a group. -/
inductive OneMore : List Item → List Item → Prop
  | here (front back : List Item) (i : Item) : OneMore (front ++ back) (front ++ i :: back)
  | inside {is js : List Item} (front back : List Item) (g : Grouping)
      (name condition : Option String) (h : OneMore is js) :
    OneMore (front ++ .flow g name condition is :: back) (front ++ .flow g name condition js :: back)

/-- Leaves of a group are leaves of the body around it. -/
theorem leaf_around (h : ∀ depth w, Leaf is depth w → Leaf js depth w) {front back : List Item}
    (hleaf : Leaf (front ++ .flow g name condition is :: back) depth w) :
    Leaf (front ++ .flow g name condition js :: back) depth w := by
  rw [leaf_append, leaf_cons, leaf_flow] at hleaf ⊢
  rcases hleaf with hfront | ⟨n, hn, hinner⟩ | hback
  · exact .inl hfront
  · exact .inr (.inl ⟨n, hn, h n w hinner⟩)
  · exact .inr (.inr hback)

theorem Reordered.leaf_iff (h : Reordered is js) : ∀ depth w, Leaf is depth w ↔ Leaf js depth w := by
  induction h with
  | here h => exact fun depth w => ⟨(·.mono h.subset), (·.mono h.symm.subset)⟩
  | inside front back g name condition _ ih =>
    exact fun depth w =>
      ⟨leaf_around fun depth w => (ih depth w).1, leaf_around fun depth w => (ih depth w).2⟩
  | trans _ _ ih ih' => exact fun depth w => (ih depth w).trans (ih' depth w)

theorem OneMore.leaf (h : OneMore is js) : ∀ depth w, Leaf is depth w → Leaf js depth w := by
  induction h with
  | here front back i =>
    intro depth w hleaf
    rw [leaf_append, leaf_cons]
    exact (leaf_append.1 hleaf).imp_right .inr
  | inside front back g name condition _ ih => exact fun depth w => leaf_around ih

theorem isGreatest_foldr_max (ns : List Nat) :
    IsGreatest (insert 0 {n | n ∈ ns}) (ns.foldr max 0) := by
  induction ns with
  | nil => simp
  | cons m ns ih =>
    have hset : insert 0 {n | n ∈ m :: ns} = insert m (insert 0 {n | n ∈ ns}) := by
      rw [Set.insert_comm]
      congr 1
      ext n
      simp
    rw [hset, List.foldr_cons]
    exact ih.insert m

theorem isGreatest_multilineWidth (t : String) :
    IsGreatest (insert 0 {n | ∃ l ∈ Width.lines t.toList, n = displayWidth (.ofList l)})
      (multilineWidth t) := by
  have h := isGreatest_foldr_max
    ((Width.lines t.toList).map fun l => (Width.measure l).1.toNat)
  rw [← List.foldl_eq_foldr] at h
  simpa [displayWidth, multilineWidth, eq_comm] using h

/-- The width of a body is that of its widest leaf, a leaf being as wide as its widest line and what
is put in front of it. The order of the items does not matter, an item more does not make the body
narrower, and leaves in a group take two columns more. -/
theorem contentWidth_leaves (is : List Item) :
    IsGreatest (insert 0 {n | ∃ depth w, Leaf is depth w ∧ n = 2 * depth + w}) (contentWidth is) ∧
    (∀ t, IsGreatest (insert 0 {n | ∃ l ∈ Width.lines t.toList, n = displayWidth (.ofList l)})
      (multilineWidth t)) ∧
    (∀ js, Reordered is js → contentWidth js = contentWidth is) ∧
    (∀ js, OneMore is js → contentWidth is ≤ contentWidth js) ∧
    ∀ g name condition, is ≠ [] → (∀ i ∈ is, i.ownColumns? ≠ none) →
      contentWidth [.flow g name condition is] = contentWidth is + 2 := by
  refine ⟨?_, isGreatest_multilineWidth, fun js h => ?_, fun js h => ?_, ?_⟩
  · simpa only [reaches, Nat.zero_add] using isGreatest_contentWidth is
  · exact (contentWidth_congr h.leaf_iff).symm
  · exact contentWidth_mono h.leaf
  · intro g name condition hne hleaves
    obtain ⟨i, is, rfl⟩ := List.exists_cons_of_ne_nil hne
    obtain ⟨w, hw⟩ := Option.ne_none_iff_exists'.1 (hleaves i List.mem_cons_self)
    exact contentWidth_flow (.here List.mem_cons_self hw)

def greeting : Utterance := { speaker := .user, text := "hi\nthere" }

/-- The binding is the widest leaf: one group deep, and its value takes two columns a character. -/
def nested : List Item :=
  [.topic "Home", .flow .seq none none [.utterance greeting, .binding ⟨"city", "日本"⟩]]

theorem contentWidth_leaves_nested :
    contentWidth nested = 2 + (4 + 3 + 4) ∧
    contentWidth [.flow .seq none none [.binding ⟨"city", "日本"⟩, .utterance greeting],
      .topic "Home"] = contentWidth nested ∧
    contentWidth nested ≤ contentWidth [.topic "Home", .flow .seq none none
      [.utterance greeting, .flow .xor none none [], .binding ⟨"city", "日本"⟩]] ∧
    contentWidth [.flow .xor none (some "c") [.why "", .effect ""]] =
      contentWidth [.why "", .effect ""] + 2 := by
  obtain ⟨-, -, horder, hmore, -⟩ := contentWidth_leaves nested
  obtain ⟨-, -, -, -, hwrap⟩ := contentWidth_leaves [.why "", .effect ""]
  have hreordered : Reordered nested
      [.flow .seq none none [.binding ⟨"city", "日本"⟩, .utterance greeting], .topic "Home"] :=
    (Reordered.inside [.topic "Home"] [] .seq none none (.here (.swap _ _ []))).trans
      (.here (.swap _ _ []))
  exact ⟨by decide +kernel, horder _ hreordered,
    hmore _ (.inside [.topic "Home"] [] .seq none none (.here [.utterance greeting] _ _)),
    hwrap _ _ _ (by decide) (by decide +kernel)⟩

end Interaction
