import Mathlib.Data.List.Basic
import Interaction.CommandLine.Desk

/-!
# A text that is written at a path is read back there

A path is walked folder by folder, and each step asks for one name only. A new text changes what
has its own names from a file or nothing to a file; folders it leaves as they are
(`entry_put_of_folder`). So the way to the text stays open (`enter_put`), and at its end is the text
(`read_put`). What else is on the desk does not matter for paths (`spot_congr`).
-/

namespace Interaction.CommandLine
namespace Desk
variable {d d' : Desk} {folder folder' names file : Names} {name path s : String}

/-! ### What paths depend on -/

theorem look_congr (hfiles : d'.files = d.files) (hfolder : d'.folder = d.folder) :
    d'.look folder name = d.look folder name := by
  unfold look entry bytes? hasFolder
  rw [hfiles, hfolder]

theorem enter_congr (hfiles : d'.files = d.files) (hfolder : d'.folder = d.folder) :
    d'.enter folder names = d.enter folder names := by
  induction names generalizing folder with
  | nil => rfl
  | cons name names ih =>
    unfold enter
    rw [look_congr hfiles hfolder]
    simp only [ih]

theorem lastFolder_congr (hfiles : d'.files = d.files) (hfolder : d'.folder = d.folder) :
    d'.lastFolder path = d.lastFolder path := by
  unfold lastFolder origin
  rw [hfolder]
  simp only [enter_congr hfiles hfolder]

theorem spot_congr (hfiles : d'.files = d.files) (hfolder : d'.folder = d.folder) :
    d'.spot path = d.spot path := by
  unfold spot
  simp only [lastFolder_congr hfiles hfolder, look_congr hfiles hfolder]

/-! ### A new text -/

theorem mem_map_putBytes (b : ByteArray) {fs : List (Names × ByteArray)}
    (h : names ∈ fs.map Prod.fst) : names ∈ (putBytes file b fs).map Prod.fst := by
  induction fs with
  | nil => cases h
  | cons f fs ih =>
    rw [putBytes]
    split
    · rename_i hf
      simpa [hf] using h
    · rcases List.mem_cons.1 h with rfl | h
      · exact List.mem_cons_self
      · exact List.mem_cons_of_mem _ (ih h)

theorem hasFolder_iff : d.hasFolder names = true ↔
    names <+: d.folder ∨ ∃ other ∈ d.files.map Prod.fst, names <+: other ∧ names ≠ other := by
  simp only [hasFolder, Bool.or_eq_true, List.isPrefixOf_iff_prefix, List.any_eq_true,
    Bool.and_eq_true, decide_eq_true_eq, List.mem_map, exists_exists_and_eq_and]

theorem hasFolder_put (s : String) (h : d.hasFolder names = true) :
    (d.put file s).hasFolder names = true := by
  rw [hasFolder_iff] at h ⊢
  refine h.imp_right ?_
  rintro ⟨other, hother, hbelow⟩
  exact ⟨other, mem_map_putBytes _ hother, hbelow⟩

theorem entry_eq_folder :
    d.entry names = .folder folder ↔
      d.bytes? names = none ∧ d.hasFolder names = true ∧ folder = names := by
  unfold entry
  cases d.bytes? names with
  | some b => simp
  | none => cases d.hasFolder names <;> simp [eq_comm]

theorem entry_put (d : Desk) (file : Names) (s : String) :
    (d.put file s).entry file = .file file s.toUTF8 := by
  unfold entry
  rw [bytes?_put]

theorem entry_put_of_folder (hfile : d.entry file ≠ .folder file) (s : String)
    (h : d.entry names = .folder folder) : (d.put file s).entry names = .folder folder := by
  have hne : file ≠ names := by
    rintro rfl
    obtain ⟨-, -, rfl⟩ := entry_eq_folder.1 h
    exact hfile h
  obtain ⟨hbytes, hfolder, hnames⟩ := entry_eq_folder.1 h
  rw [← bytes?_put_of_ne d s hne] at hbytes
  exact entry_eq_folder.2 ⟨hbytes, hasFolder_put s hfolder, hnames⟩

theorem look_put_of_folder (hfile : d.entry file ≠ .folder file) (s : String)
    (h : d.look folder name = .ok (.folder folder')) :
    (d.put file s).look folder name = .ok (.folder folder') := by
  unfold look at h ⊢
  split_ifs at h ⊢
  · exact h
  · exact h
  · rw [entry_put_of_folder hfile s (Except.ok.inj h)]

theorem enter_put (hfile : d.entry file ≠ .folder file) (s : String)
    (h : d.enter folder names = .ok folder') :
    (d.put file s).enter folder names = .ok folder' := by
  induction names generalizing folder with
  | nil => exact h
  | cons name names ih =>
    unfold enter at h ⊢
    cases hlook : d.look folder name with
    | error e => rw [hlook] at h; cases h
    | ok entry =>
      rw [hlook] at h
      cases entry with
      | folder next =>
        rw [look_put_of_folder hfile s hlook]
        exact ih h
      | file names b => cases h
      | vacant names => cases h

theorem lastFolder_eq_ok : d.lastFolder path = .ok (folder, name) ↔
    path.utf8ByteSize ≤ maxPathLength ∧
      d.enter (d.origin path) (namesOf path).dropLast = .ok folder ∧
      (namesOf path).getLast?.getD "." = name := by
  unfold lastFolder
  split_ifs with hlong
  · exact ⟨nofun, fun h => absurd h.1 (Nat.not_le_of_lt hlong)⟩
  · cases d.enter (d.origin path) (namesOf path).dropLast with
    | error e => exact ⟨nofun, fun h => nomatch h.2.1⟩
    | ok f => simp [Except.map, Nat.le_of_not_lt hlong]

theorem lastFolder_put (hfile : d.entry file ≠ .folder file) (s : String)
    (h : d.lastFolder path = .ok (folder, name)) :
    (d.put file s).lastFolder path = .ok (folder, name) := by
  obtain ⟨hlong, henter, hname⟩ := lastFolder_eq_ok.1 h
  exact lastFolder_eq_ok.2 ⟨hlong, enter_put hfile s henter, hname⟩

theorem writable_entry (h : (d.entry names).writable = .ok file) :
    names = file ∧ d.entry file ≠ .folder file := by
  unfold entry at h ⊢
  cases hbytes : d.bytes? names with
  | some b =>
    rw [hbytes] at h
    cases h
    rw [hbytes]
    exact ⟨rfl, nofun⟩
  | none =>
    rw [hbytes] at h
    cases hfolder : d.hasFolder names with
    | true => simp [hfolder, Entry.writable] at h
    | false =>
      obtain rfl : names = file := by simpa [hfolder, Entry.writable] using h
      simp [hbytes, hfolder]

/-- A name under which a text can be written is no `.` or `..`, and so has an entry of its own. -/
theorem writable_look (h : (d.look folder name).bind Entry.writable = .ok file) :
    d.entry file ≠ .folder file ∧ ∀ d' : Desk, d'.look folder name = .ok (d'.entry file) := by
  unfold look at h ⊢
  split_ifs at h ⊢
  · cases h
  · cases h
  · cases h
  · obtain ⟨rfl, hfile⟩ := writable_entry h
    exact ⟨hfile, fun _ => rfl⟩

theorem spot_eq_ok (h : d.spot path = .ok file) : endsInSlash path = false ∧
    d.entry file ≠ .folder file ∧ ∃ folder name, d.lastFolder path = .ok (folder, name) ∧
      ∀ d' : Desk, d'.look folder name = .ok (d'.entry file) := by
  unfold spot at h
  cases hlast : d.lastFolder path with
  | error e => rw [hlast] at h; cases h
  | ok last =>
    rw [hlast] at h
    cases hslash : endsInSlash path with
    | true => rw [hslash] at h; cases h
    | false =>
      rw [hslash] at h
      obtain ⟨hfile, hlook⟩ := writable_look h
      exact ⟨rfl, hfile, last.1, last.2, rfl, hlook⟩

/-- A text that can be written at a path is read back from there. -/
theorem read_put (h : d.spot path = .ok file) (s : String) :
    (d.put file s).read path = .ok s.toUTF8 := by
  obtain ⟨hslash, hfile, folder, name, hlast, hlook⟩ := spot_eq_ok h
  unfold read
  simp only [lastFolder_put hfile s hlast, hlook, bind, Except.bind, entry_put, hslash]
  rfl

end Desk
end Interaction.CommandLine
