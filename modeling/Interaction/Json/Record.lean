import Interaction.Json.Scan

/-! # Values of a known shape

Readers for strings, numbers, lists and records. A record is an object, or an array of its fields
in order. Fields of other names are skipped, a field that comes twice is a flaw, and a record that
lacks a field it needs is misshapen. -/

namespace Interaction.Json

/-- The flaw of a text that holds some other value than is wanted. A string or a number is read to
its end first, because it may itself be wrong. -/
def misfit (s : List Char) : Flaw :=
  let ended {α : Type} (r : Except Flaw α) : Flaw :=
    match r with
    | .ok _ => .misshapen
    | .error e => e
  match s with
  | [] => .truncated
  | 'n' :: r => ended (skipWord "ull".toList r)
  | 't' :: r => ended (skipWord "rue".toList r)
  | 'f' :: r => ended (skipWord "alse".toList r)
  | '"' :: r => ended (stringRest r)
  | '[' :: _ => .misshapen
  | '\x7b' :: _ => .misshapen
  | c :: r => if startsNumber c then ended (scanNumber (c :: r)) else .malformed

def readString : Reader String := fun s =>
  match skipBlanks s with
  | '"' :: r => (stringRest r).map fun (cs, r) => (String.ofList cs, r)
  | r => .error (misfit r)

/-- A string or `null`. -/
def readStringOrNull : Reader (Option String) := fun s =>
  match skipBlanks s with
  | 'n' :: r => (skipWord "ull".toList r).map (none, ·)
  | r => (readString r).map fun (v, r) => (some v, r)

def readNumber : Reader Binary64 := fun s =>
  match skipBlanks s with
  | c :: r => if startsNumber c then scanNumber (c :: r) else .error (misfit (c :: r))
  | [] => .error .truncated

/-- To the next item of an array, or to its closing bracket. `first` is set in front of the first
item, where no comma is needed. -/
def toItem (first : Bool) (s : List Char) : Except Flaw (Option (List Char)) :=
  match skipBlanks s with
  | [] => .error .truncated
  | ']' :: _ => .ok none
  | c :: r =>
    if first then .ok (some (c :: r))
    else if c = ',' then
      match skipBlanks r with
      | [] => .error .truncated
      | ']' :: _ => .error .malformed
      | r => .ok (some r)
    else .error .malformed

/-- Behind the closing bracket of an array that has no more items. -/
def endArray (s : List Char) : Except Flaw (List Char) :=
  match skipBlanks s with
  | [] => .error .truncated
  | ']' :: r => .ok r
  | _ => .error .malformed

/-- The items of an array from here on, no more than `clock` has entries. -/
def readItemsWithin {α : Type} (item : Reader α) : List Char → Bool → Reader (List α)
  | [], _, _ => .error .truncated
  | _ :: clock, first, s => do
    match ← toItem first s with
    | none => (endArray s).map ([], ·)
    | some r =>
      let (a, r) ← item r
      let (as, r) ← readItemsWithin item clock false r
      .ok (a :: as, r)

def readList {α : Type} (item : Reader α) : Reader (List α) := fun s =>
  match skipBlanks s with
  | '[' :: r => readItemsWithin item ('[' :: r) true r
  | r => .error (misfit r)

/-- A field of a record that is being filled in as a `σ`. -/
structure Field (σ : Type) where
  key : String
  isSet : σ → Bool
  read : σ → Reader σ

/-- The fields of a record in the array form, as many as there are. -/
def readFields {σ : Type} : List (Field σ) → Bool → σ → Reader σ
  | [], _, a, s => .ok (a, s)
  | f :: fs, first, a, s =>
    match toItem first s with
    | .error e => .error e
    | .ok none => .ok (a, s)
    | .ok (some r) =>
      match f.read a r with
      | .error e => .error e
      | .ok (a, r) => readFields fs false a r

/-- To the next key of an object, behind its quote, or to the closing bracket. -/
def toKey (first : Bool) (s : List Char) : Except Flaw (Option (List Char)) :=
  match skipBlanks s with
  | [] => .error .truncated
  | '\x7d' :: _ => .ok none
  | c :: r =>
    if first then (if c = '"' then .ok (some r) else .error .malformed)
    else if c = ',' then
      match skipBlanks r with
      | [] => .error .truncated
      | '"' :: r => .ok (some r)
      | _ => .error .malformed
    else .error .malformed

/-- Behind the colon of a member. -/
def colon (s : List Char) : Except Flaw (List Char) :=
  match skipBlanks s with
  | [] => .error .truncated
  | ':' :: r => .ok r
  | _ => .error .malformed

/-- One member, from behind the quote of its key. -/
def readMember {σ : Type} (fs : List (Field σ)) (a : σ) : Reader σ := fun s => do
  let (key, r) ← stringRest s
  match fs.find? (·.key == String.ofList key) with
  | some f =>
    if f.isSet a then .error .misshapen
    else
      let r ← colon r
      f.read a r
  | none =>
    let r ← colon r
    let r ← skipValue r
    .ok (a, r)

/-- The members of an object from here on, up to its closing bracket and no more than `clock` has
entries. -/
def readMembersWithin {σ : Type} (fs : List (Field σ)) : List Char → Bool → σ → Reader σ
  | [], _, _, _ => .error .truncated
  | _ :: clock, first, a, s => do
    match ← toKey first s with
    | none => .ok (a, s)
    | some r =>
      let (a, r) ← readMember fs a r
      readMembersWithin fs clock false a r

/-- A record that starts out as `blank`; `finish` tells whether all is there that has to be. -/
def readRecord {σ α : Type} (fs : List (Field σ)) (blank : σ) (finish : σ → Option α) : Reader α :=
  fun s =>
    let finished (a : σ) : Except Flaw α :=
      match finish a with
      | some v => .ok v
      | none => .error .misshapen
    match skipBlanks s with
    | '[' :: r => do
      let (a, r) ← readFields fs true blank r
      let v ← finished a
      let r ← endArray r
      .ok (v, r)
    | '\x7b' :: r => do
      let (a, r) ← readMembersWithin fs s true blank r
      let v ← finished a
      .ok (v, (skipBlanks r).tail)
    | r => .error (misfit r)

/-- A text that holds one value and nothing else but blanks. -/
def readAll {α : Type} (p : Reader α) (s : String) : Except Flaw α := do
  let (a, r) ← p s.toList
  if (skipBlanks r).isEmpty then .ok a else .error .malformed

end Interaction.Json
