import Mathlib.Data.List.Forall2
import Interaction.Json.Basic
import Interaction.Json.Record

/-!
# What is written as JSON is read back

A reader `Reads` a value from its indented text if it does so behind any blanks and in front of
whatever may follow a value in such a text. Strings are read character by character
(`stringWithin_escape`), lists item by item (`reads_list`) and records member by member: `Fills`
says how the members fill a record (`reads_record`).
-/

namespace Interaction.Json

/-- All characters are blanks. -/
def Blank (bs : List Char) : Prop := ∀ c ∈ bs, isBlank c = true

/-- Nothing follows a value but a comma or a new line. -/
def Delimited (s : List Char) : Prop := ∀ c ∈ s.head?, c = ',' ∨ c = '\n'

/-- The reader reads `a` where `j` is written. -/
def Reads {α : Type} (p : Reader α) (j : Json) (a : α) : Prop :=
  ∀ (d : Nat) ⦃bs rest : List Char⦄, Blank bs → Delimited rest →
    p (bs ++ (j.write .indented d ++ rest)) = .ok (a, rest)

theorem Reads.at_front {α : Type} {p : Reader α} {j : Json} {a : α} (h : Reads p j a) (d : Nat)
    {rest : List Char} (hrest : Delimited rest) :
    p (j.write .indented d ++ rest) = .ok (a, rest) :=
  @h d [] rest (List.forall_mem_nil _) hrest

section
variable (sp : Spacing) (d : Nat)

theorem write_null : write sp d .null = "null".toList := rfl

theorem write_number (x : Binary64) : write sp d (.number x) = x.text pointRange := rfl

theorem write_string (s : String) : write sp d (.string s) = quote s := rfl

theorem write_array_cons (j : Json) (js : List Json) :
    write sp d (.array (j :: js)) =
      '[' :: (sp.newline (d + 1) ++ write sp (d + 1) j ++ writeItems sp (d + 1) js ++
        sp.newline d ++ [']']) := rfl

theorem write_object_cons (key : String) (j : Json) (ms : List (String × Json)) :
    write sp d (.object ((key, j) :: ms)) =
      '\x7b' :: (sp.newline (d + 1) ++ quote key ++ sp.colon ++ write sp (d + 1) j ++
        writeMembers sp (d + 1) ms ++ sp.newline d ++ ['\x7d']) := rfl

theorem writeItems_cons (j : Json) (js : List Json) :
    writeItems sp d (j :: js) = ',' :: (sp.newline d ++ write sp d j ++ writeItems sp d js) := rfl

theorem writeMembers_cons (key : String) (j : Json) (ms : List (String × Json)) :
    writeMembers sp d ((key, j) :: ms) =
      ',' :: (sp.newline d ++ quote key ++ sp.colon ++ write sp d j ++ writeMembers sp d ms) :=
  rfl

end

theorem bind_eq_ok {α β : Type} {x : Except Flaw α} {f : α → Except Flaw β} {b : β} :
    x >>= f = .ok b ↔ ∃ a, x = .ok a ∧ f a = .ok b := by
  cases x with
  | error => exact ⟨nofun, by rintro ⟨_, ⟨⟩, _⟩⟩
  | ok a =>
    refine ⟨fun h => ⟨a, rfl, h⟩, ?_⟩
    rintro ⟨_, ⟨⟩, h⟩
    exact h

section
variable {bs s rest : List Char} {c : Char}

theorem skipBlanks_append (h : Blank bs) (s : List Char) : skipBlanks (bs ++ s) = skipBlanks s :=
  List.dropWhile_append_of_pos h

theorem skipBlanks_cons (hc : isBlank c = false) (s : List Char) :
    skipBlanks (c :: s) = c :: s := by
  rw [skipBlanks, List.dropWhile_cons_of_neg (by simp [hc])]

theorem skipBlanks_append_cons (h : Blank bs) (hc : isBlank c = false) (s : List Char) :
    skipBlanks (bs ++ c :: s) = c :: s := (skipBlanks_append h _).trans (skipBlanks_cons hc s)

theorem blank_newline (d : Nat) : Blank (Spacing.indented.newline d) := by
  intro c hc
  rcases List.mem_cons.1 hc with rfl | hc
  · rfl
  · rw [List.eq_of_mem_replicate hc]
    rfl

theorem delimited_newline (d : Nat) (s : List Char) :
    Delimited (Spacing.indented.newline d ++ s) := by
  rintro _ ⟨⟩
  exact .inr rfl

theorem delimited_comma (s : List Char) : Delimited (',' :: s) := by
  rintro _ ⟨⟩
  exact .inl rfl

end

/-! ### Strings -/

theorem hexDigit?_digitChar : ∀ n < 16, hexDigit? (Nat.digitChar n) = some n := by decide

/-- The escape of a control character. -/
theorem escaped_hexPair {n : Nat} (h : n < 0x20) (s : List Char) :
    escaped ('u' :: '0' :: '0' :: (hexPair n ++ s)) = .ok (Char.ofNat n, s) := by
  have hquad : hexQuad ('0' :: '0' :: (hexPair n ++ s)) = .ok (n, s) := by
    have hzero : hexDigit? '0' = some 0 := rfl
    simp only [hexPair, List.cons_append, List.nil_append, hexQuad, hzero,
      hexDigit?_digitChar (n / 16) (by omega), hexDigit?_digitChar (n % 16) (by omega)]
    rw [show ((0 * 16 + 0) * 16 + n / 16) * 16 + n % 16 = n by omega]
  rw [escaped, hquad]
  show (if _ then _ else _) = _
  rw [if_neg (by omega), if_neg (by omega)]

/-- A character is read from its escape. -/
theorem stringWithin_escape_append (c k : Char) (clock s : List Char) :
    stringWithin (k :: clock) (escape c ++ s) =
      (stringWithin clock s).map fun (cs, r) => (c :: cs, r) := by
  have hescaped : ∀ {c : Char} {r : List Char}, escaped r = .ok (c, s) →
      stringWithin (k :: clock) ('\\' :: r) =
        (stringWithin clock s).map fun (cs, r) => (c :: cs, r) := by
    intro c r h
    rw [stringWithin, h]
    show (do let (cs, r) ← stringWithin clock s; Except.ok (c :: cs, r)) = _
    cases stringWithin clock s <;> rfl
  unfold escape
  split
  iterate 7 · exact hescaped rfl
  · rename_i hquote hslash _ _ _ _ _
    split
    · rename_i hcontrol
      refine hescaped ?_
      have hread := escaped_hexPair hcontrol s
      rwa [Char.ofNat_toNat] at hread
    · rename_i hcontrol
      rw [List.cons_append, List.nil_append, stringWithin]
      · rw [if_neg hcontrol]
        show (do let (cs, r) ← stringWithin clock s; Except.ok (c :: cs, r)) = _
        cases stringWithin clock s <;> rfl
      · exact hquote
      · exact hslash

/-- A string is read from its escapes, whatever stands behind it. -/
theorem stringWithin_escape {clock cs : List Char} (h : cs.length < clock.length)
    (rest : List Char) :
    stringWithin clock (cs.flatMap escape ++ '"' :: rest) = .ok (cs, rest) := by
  induction cs generalizing clock with
  | nil =>
    cases clock with
    | nil => cases h
    | cons k clock => rfl
  | cons c cs ih =>
    cases clock with
    | nil => cases h
    | cons k clock =>
      rw [List.flatMap_cons, List.append_assoc, stringWithin_escape_append,
        ih (Nat.lt_of_succ_lt_succ h)]
      rfl

theorem escape_ne_nil (c : Char) : escape c ≠ [] := by
  unfold escape
  split
  iterate 7 · simp
  · split <;> simp

theorem length_le_length_flatMap_escape (cs : List Char) :
    cs.length ≤ (cs.flatMap escape).length := by
  induction cs with
  | nil => simp
  | cons c cs ih =>
    have hc := List.length_pos_iff.2 (escape_ne_nil c)
    rw [List.flatMap_cons, List.length_append, List.length_cons]
    omega

theorem stringRest_escape (cs rest : List Char) :
    stringRest (cs.flatMap escape ++ '"' :: rest) = .ok (cs, rest) := by
  have hlength := length_le_length_flatMap_escape cs
  refine stringWithin_escape ?_ rest
  simp only [List.length_append, List.length_cons]
  omega

theorem quote_append (s : String) (rest : List Char) :
    quote s ++ rest = '"' :: (s.toList.flatMap escape ++ '"' :: rest) := by simp [quote]

theorem reads_string (s : String) : Reads readString (.string s) s := by
  intro d bs rest hbs _
  rw [write_string, quote_append, readString, skipBlanks_append_cons hbs (by decide)]
  simp only [stringRest_escape]
  show Except.ok (String.ofList s.toList, rest) = _
  rw [String.ofList_toList]

theorem reads_stringOrNull (o : Option String) :
    Reads readStringOrNull (orNull .string o) o := by
  intro d bs rest hbs hrest
  cases o with
  | none =>
    have hnull : (orNull .string (none : Option String)).write .indented d =
        'n' :: "ull".toList := write_null _ d
    rw [hnull, List.cons_append, readStringOrNull, skipBlanks_append_cons hbs (by decide)]
    rfl
  | some s =>
    have hread := (reads_string s).at_front d hrest
    rw [write_string, quote_append] at hread
    rw [orNull, write_string, quote_append, readStringOrNull, skipBlanks_append_cons hbs (by decide)]
    show (readString ('"' :: _)).map _ = _
    rw [hread]
    rfl

/-! ### Lists -/

section
variable {α : Type} {p : Reader α} {j : Json} {a : α} {js : List Json} {as : List α}
  {clock bs rest : List Char}

/-- What is written starts with something that is neither a blank nor the end of an array. -/
def Opens (j : Json) : Prop :=
  ∀ d, ∃ c s, j.write .indented d = c :: s ∧ isBlank c = false ∧ c ≠ ']'

theorem opens_object (ms : List (String × Json)) : Opens (.object ms) := by
  intro d
  cases ms with
  | nil => exact ⟨_, _, rfl, by decide, by decide⟩
  | cons m ms => exact ⟨_, _, write_object_cons .., by decide, by decide⟩

theorem toItem_first (h : Opens j) (d : Nat) (hbs : Blank bs) (rest : List Char) :
    toItem true (bs ++ (j.write .indented d ++ rest)) =
      .ok (some (j.write .indented d ++ rest)) := by
  obtain ⟨c, s, hj, hc, hclose⟩ := h d
  rw [hj, List.cons_append, toItem, skipBlanks_append_cons hbs hc]
  split
  · rename_i heq
    cases heq
  · rename_i heq
    cases heq
    exact absurd rfl hclose
  · rename_i heq
    cases heq
    rfl

theorem toItem_next (h : Opens j) (d : Nat) (hbs : Blank bs) (rest : List Char) :
    toItem false (',' :: (bs ++ (j.write .indented d ++ rest))) =
      .ok (some (j.write .indented d ++ rest)) := by
  obtain ⟨c, s, hj, hc, hclose⟩ := h d
  rw [hj, List.cons_append, toItem, skipBlanks_cons (by decide)]
  show (if false = true then _ else if ',' = ',' then _ else _) = _
  rw [if_neg Bool.false_ne_true, if_pos rfl, skipBlanks_append_cons hbs hc]
  split
  · rename_i heq
    cases heq
  · rename_i heq
    cases heq
    exact absurd rfl hclose
  · rfl

theorem readItemsWithin_end (hbs : Blank bs) (k : Char) (clock : List Char) (first : Bool)
    (rest : List Char) :
    readItemsWithin p (k :: clock) first (bs ++ ']' :: rest) = .ok ([], rest) := by
  have hskip : skipBlanks (bs ++ ']' :: rest) = ']' :: rest := skipBlanks_append_cons hbs rfl rest
  have hitem : toItem first (bs ++ ']' :: rest) = .ok none := by
    rw [toItem, hskip]
    rfl
  have hend : endArray (bs ++ ']' :: rest) = .ok rest := by
    rw [endArray, hskip]
    rfl
  rw [readItemsWithin, hitem]
  show (endArray (bs ++ ']' :: rest)).map _ = _
  rw [hend]
  rfl

theorem readItemsWithin_step {k : Char} {first : Bool} {s r r' : List Char}
    (hitem : toItem first s = .ok (some r)) (hread : p r = .ok (a, r')) :
    readItemsWithin p (k :: clock) first s =
      (readItemsWithin p clock false r').map fun (as, r) => (a :: as, r) := by
  rw [readItemsWithin, hitem]
  show (p r >>= _) = _
  rw [hread]
  show (readItemsWithin p clock false r' >>= _) = _
  cases readItemsWithin p clock false r' <;> rfl

theorem delimited_writeItems (js : List Json) (d d' : Nat) (s : List Char) :
    Delimited (writeItems .indented d js ++ (Spacing.indented.newline d' ++ s)) := by
  cases js with
  | nil => exact delimited_newline d' s
  | cons j js =>
    rw [writeItems_cons, List.cons_append]
    exact delimited_comma _

theorem length_le_length_writeItems (sp : Spacing) (d : Nat) (js : List Json) :
    js.length ≤ (writeItems sp d js).length := by
  induction js with
  | nil => simp
  | cons j js ih =>
    simp only [writeItems_cons, List.length_cons, List.length_append]
    omega

/-- The items behind the first, by induction on the list. -/
theorem readItemsWithin_writeItems (h : List.Forall₂ (Reads p) js as) (hopens : ∀ j ∈ js, Opens j)
    (d d' : Nat) (hclock : js.length < clock.length) (rest : List Char) :
    readItemsWithin p clock false
        (writeItems .indented d js ++ (Spacing.indented.newline d' ++ ']' :: rest)) =
      .ok (as, rest) := by
  induction h generalizing clock with
  | nil =>
    cases clock with
    | nil => cases hclock
    | cons k clock => exact readItemsWithin_end (blank_newline d') k clock false rest
  | @cons j a js as hj hjs ih =>
    cases clock with
    | nil => cases hclock
    | cons k clock =>
      obtain ⟨hopen, hopens⟩ := List.forall_mem_cons.1 hopens
      have hread := hj.at_front d (delimited_writeItems js d d' (']' :: rest))
      simp only [writeItems_cons, List.cons_append, List.append_assoc]
      rw [readItemsWithin_step (toItem_next hopen d (blank_newline d) _) hread,
        ih hopens (Nat.lt_of_succ_lt_succ hclock)]
      rfl

theorem reads_list (h : List.Forall₂ (Reads p) js as) (hopens : ∀ j ∈ js, Opens j) :
    Reads (readList p) (.array js) as := by
  intro d bs rest hbs _
  cases h with
  | nil =>
    show readList p (bs ++ '[' :: (']' :: rest)) = _
    rw [readList, skipBlanks_append_cons hbs (by decide)]
    exact readItemsWithin_end (List.forall_mem_nil _) _ _ true rest
  | @cons j a js as hj hjs =>
    obtain ⟨hopen, hopens⟩ := List.forall_mem_cons.1 hopens
    have hread := hj.at_front (d + 1) (delimited_writeItems js (d + 1) d (']' :: rest))
    have hlength := length_le_length_writeItems .indented (d + 1) js
    rw [write_array_cons, List.cons_append, readList, skipBlanks_append_cons hbs (by decide)]
    simp only [List.append_assoc, List.cons_append, List.nil_append]
    rw [readItemsWithin_step (toItem_first hopen (d + 1) (blank_newline (d + 1)) _) hread,
      readItemsWithin_writeItems hjs hopens]
    · rfl
    · simp only [List.length_append, List.length_cons]
      omega

theorem reads_list_map {f : α → Json} (h : ∀ a ∈ as, Reads p (f a) a) (hopens : ∀ a, Opens (f a)) :
    Reads (readList p) (.array (as.map f)) as := by
  refine reads_list (List.forall₂_map_left_iff.2 (List.forall₂_same.2 h)) fun j hj => ?_
  obtain ⟨a, -, rfl⟩ := List.mem_map.1 hj
  exact hopens a

end

/-! ### Records -/

section
variable {σ α : Type} {fs : List (Field σ)} {a a' : σ} {bs rest clock : List Char}

/-- The members fill a record that is `a` up to `a'`. -/
inductive Fills (fs : List (Field σ)) : σ → List (String × Json) → σ → Prop
  | nil (a : σ) : Fills fs a [] a
  | cons {a a' a'' : σ} {key : String} {j : Json} {ms : List (String × Json)} {f : Field σ}
    (hf : fs.find? (·.key == key) = some f) (hset : f.isSet a = false)
    (hread : Reads (f.read a) j a') (h : Fills fs a' ms a'') : Fills fs a ((key, j) :: ms) a''

/-- A member, from behind the first quote of its key. -/
theorem readMember_write {f : Field σ} {key : String} {j : Json}
    (hf : fs.find? (·.key == key) = some f) (hset : f.isSet a = false)
    (hread : Reads (f.read a) j a') (d : Nat) (hrest : Delimited rest) :
    readMember fs a (key.toList.flatMap escape ++
      '"' :: (Spacing.indented.colon ++ (j.write .indented d ++ rest))) = .ok (a', rest) := by
  have hcolon : colon (Spacing.indented.colon ++ (j.write .indented d ++ rest)) =
      .ok ([' '] ++ (j.write .indented d ++ rest)) := by
    rw [colon, Spacing.colon, List.cons_append, skipBlanks_cons (by decide)]
    rfl
  have hvalue := @hread d [' '] rest (by simp [Blank, isBlank]) hrest
  refine bind_eq_ok.2 ⟨_, stringRest_escape key.toList _, ?_⟩
  dsimp only
  rw [String.ofList_toList, hf]
  dsimp only
  rw [if_neg (Bool.eq_false_iff.1 hset)]
  exact bind_eq_ok.2 ⟨_, hcolon, hvalue⟩

theorem toKey_first (hbs : Blank bs) (key : String) (rest : List Char) :
    toKey true (bs ++ (quote key ++ rest)) =
      .ok (some (key.toList.flatMap escape ++ '"' :: rest)) := by
  rw [quote_append, toKey, skipBlanks_append_cons hbs (by decide)]
  rfl

theorem toKey_next (hbs : Blank bs) (key : String) (rest : List Char) :
    toKey false (',' :: (bs ++ (quote key ++ rest))) =
      .ok (some (key.toList.flatMap escape ++ '"' :: rest)) := by
  rw [quote_append, toKey, skipBlanks_cons (by decide)]
  show (if false = true then _ else if ',' = ',' then _ else _) = _
  rw [if_neg Bool.false_ne_true, if_pos rfl, skipBlanks_append_cons hbs (by decide)]
  rfl

theorem readMembersWithin_end (hbs : Blank bs) (k : Char) (clock : List Char) (first : Bool)
    (a : σ) (rest : List Char) :
    readMembersWithin fs (k :: clock) first a (bs ++ '\x7d' :: rest) =
      .ok (a, bs ++ '\x7d' :: rest) := by
  have hkey : toKey first (bs ++ '\x7d' :: rest) = .ok none := by
    rw [toKey, skipBlanks_append_cons hbs (by decide)]
    rfl
  rw [readMembersWithin, hkey]
  rfl

theorem readMembersWithin_step {k : Char} {first : Bool} {s r r' : List Char}
    (hkey : toKey first s = .ok (some r)) (hmember : readMember fs a r = .ok (a', r')) :
    readMembersWithin fs (k :: clock) first a s = readMembersWithin fs clock false a' r' := by
  rw [readMembersWithin, hkey]
  show (readMember fs a r >>= _) = _
  rw [hmember]
  rfl

theorem delimited_writeMembers (ms : List (String × Json)) (d d' : Nat) (s : List Char) :
    Delimited (writeMembers .indented d ms ++ (Spacing.indented.newline d' ++ s)) := by
  cases ms with
  | nil => exact delimited_newline d' s
  | cons m ms =>
    obtain ⟨key, j⟩ := m
    rw [writeMembers_cons, List.cons_append]
    exact delimited_comma _

theorem length_le_length_writeMembers (sp : Spacing) (d : Nat) (ms : List (String × Json)) :
    ms.length ≤ (writeMembers sp d ms).length := by
  induction ms with
  | nil => simp
  | cons m ms ih =>
    obtain ⟨key, j⟩ := m
    simp only [writeMembers_cons, List.length_cons, List.length_append]
    omega

/-- The members behind the first, by induction on how they fill the record. -/
theorem readMembersWithin_writeMembers {ms : List (String × Json)} (h : Fills fs a ms a')
    (d d' : Nat) (hclock : ms.length < clock.length) (rest : List Char) :
    readMembersWithin fs clock false a
        (writeMembers .indented d ms ++ (Spacing.indented.newline d' ++ '\x7d' :: rest)) =
      .ok (a', Spacing.indented.newline d' ++ '\x7d' :: rest) := by
  induction h generalizing clock with
  | nil a =>
    cases clock with
    | nil => cases hclock
    | cons k clock => exact readMembersWithin_end (blank_newline d') k clock false a rest
  | @cons a a₁ a₂ key j ms f hf hset hread _ ih =>
    cases clock with
    | nil => cases hclock
    | cons k clock =>
      have hmember := readMember_write hf hset hread d
        (delimited_writeMembers ms d d' ('\x7d' :: rest))
      simp only [writeMembers_cons, List.cons_append, List.append_assoc]
      rw [readMembersWithin_step (toKey_next (blank_newline d) key _) hmember,
        ih (Nat.lt_of_succ_lt_succ hclock)]

/-- A record with at least one member, if nothing is missing in what its members fill. -/
theorem reads_record {key : String} {j : Json} {ms : List (String × Json)} {v : α}
    {finish : σ → Option α} (h : Fills fs a ((key, j) :: ms) a') (hfinish : finish a' = some v) :
    Reads (readRecord fs a finish) (.object ((key, j) :: ms)) v := by
  intro d bs rest hbs _
  cases h with
  | @cons _ a₁ _ _ _ _ f hf hset hread hms =>
    -- The text of the members and the closing bracket.
    set behind := Spacing.indented.newline d ++ '\x7d' :: rest with hbehind
    set text := Spacing.indented.newline (d + 1) ++ (quote key ++ (Spacing.indented.colon ++
      (j.write .indented (d + 1) ++ (writeMembers .indented (d + 1) ms ++ behind)))) with htext
    have hwrite : bs ++ (write .indented d (.object ((key, j) :: ms)) ++ rest) =
        bs ++ '\x7b' :: text := by
      rw [write_object_cons, htext, hbehind]
      simp only [List.append_assoc, List.cons_append, List.nil_append]
    have hmember := readMember_write hf hset hread (d + 1)
      (delimited_writeMembers ms (d + 1) d ('\x7d' :: rest))
    have hlength := length_le_length_writeMembers .indented (d + 1) ms
    have hmembers : readMembersWithin fs (bs ++ '\x7b' :: text) true a text =
        .ok (a', behind) := by
      cases hclock : bs ++ '\x7b' :: text with
      | nil => simp at hclock
      | cons k clock =>
        have hlengths := congrArg List.length hclock
        simp only [htext, List.length_append, List.length_cons] at hlengths
        rw [readMembersWithin_step (toKey_first (blank_newline (d + 1)) key _) hmember,
          readMembersWithin_writeMembers hms]
        have hquote : 0 < (quote key).length := by simp [quote]
        omega
    have hend : skipBlanks behind = '\x7d' :: rest :=
      skipBlanks_append_cons (blank_newline d) (by decide) rest
    rw [hwrite, readRecord, skipBlanks_append_cons hbs (by decide)]
    refine bind_eq_ok.2 ⟨_, hmembers, ?_⟩
    dsimp only
    rw [hfinish, hend]
    rfl

end

end Interaction.Json
