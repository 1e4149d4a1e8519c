import Interaction.CommandLine.Run
import Interaction.Proofs.Paths

/-!
# What a run of the command leaves behind

A run reads, decides, prints, and only then writes. So whatever fails before leaves no more than a
complaint (`run_of_unreadable`, `check_of_error`, `draw_of_error`), and the only file that a run
writes is that of `--save-layout`, with the arrangement of the graph it has printed
(`Effects.deliver`). What is read is what was on the desk in front of the run, whatever is written
in the end. `start_effects` puts it together for all accepted arguments.
-/

namespace Interaction.CommandLine
namespace Desk

/-- The text of the file at a path, if it can be read. -/
def textAt? (d : Desk) (path : String) : Option String :=
  (d.read path).toOption.bind String.fromUTF8?

/-- The source text of a run, if it can be read. -/
def source? (d : Desk) (o : Options) : Option String :=
  match o.file with
  | some path => d.textAt? path
  | none => String.fromUTF8? d.input

/-- The arrangement that a run starts with, if it is given one. A file that cannot be read holds the
empty one. -/
def saved (d : Desk) (o : Options) : Option Arrangement :=
  o.layout.map fun path => ((d.textAt? path).map Arrangement.readOrEmpty).getD .empty

end Desk

variable {o : Options} {d d' : Desk} {source path : String} {g : Graph}

/-- One step of a run, and the rest of it. -/
theorem bind_of_eq {α β : Type} {x : StateM Desk α} {f : α → StateM Desk β} {a : α}
    (h : x d = (a, d')) : (x >>= f) d = f a d' := by
  show f (x d).1 (x d).2 = f a d'
  rw [h]

/-! ### Reading -/

theorem toOption_mapError {ε ε' α : Type} (f : ε → ε') (x : Except ε α) :
    (x.mapError f).toOption = x.toOption := by
  cases x <;> rfl

theorem toOption_decode (b : ByteArray) : (decode b).toOption = String.fromUTF8? b := by
  unfold decode
  cases String.fromUTF8? b <;> rfl

theorem readFile_atDesk (path : String) (d : Desk) :
    ∃ r, Host.atDesk.readFile path d = (r, d) ∧ r.toOption = d.textAt? path := by
  refine ⟨_, rfl, ?_⟩
  unfold Desk.textAt?
  cases d.read path with
  | error e => rfl
  | ok b => exact toOption_decode b

theorem readSource_atDesk (o : Options) (d : Desk) :
    ∃ r, readSource .atDesk o.file d = (r, d) ∧ r.toOption = d.source? o := by
  unfold Desk.source?
  cases o.file with
  | none => exact ⟨_, rfl, (toOption_mapError _ _).trans (toOption_decode _)⟩
  | some path =>
    obtain ⟨r, hr, htext⟩ := readFile_atDesk path d
    exact ⟨_, bind_of_eq hr, (toOption_mapError _ _).trans htext⟩

theorem readSaved_atDesk (o : Options) (d : Desk) :
    readSaved .atDesk o.layout d = (d.saved o, d) := by
  unfold Desk.saved
  cases o.layout with
  | none => rfl
  | some path =>
    obtain ⟨r, hr, htext⟩ := readFile_atDesk path d
    have hread : readLayout .atDesk path d =
        (((d.textAt? path).map Arrangement.readOrEmpty).getD .empty, d) := by
      rw [← htext, readLayout, bind_of_eq hr]
      cases r <;> rfl
    exact bind_of_eq hread

/-! ### Failures -/

/-- Nothing has changed but that there is one more complaint. -/
def Desk.Complains (d d' : Desk) : Prop :=
  ∃ words, d' = { d with complaints := d.complaints ++ words }

theorem fail_atDesk (reason : String) (d : Desk) :
    ∃ d', fail .atDesk reason d = (1, d') ∧ d.Complains d' :=
  ⟨_, rfl, _, rfl⟩

theorem run_of_unreadable (h : d.source? o = none) :
    ∃ d', run .atDesk o d = (1, d') ∧ d.Complains d' := by
  obtain ⟨r, hr, htext⟩ := readSource_atDesk o d
  rw [h] at htext
  rw [run, bind_of_eq hr]
  cases r with
  | ok s => cases htext
  | error e => exact fail_atDesk e d

theorem check_of_error {e : SyntaxError} (h : Diagram.parse source = .error e) (d : Desk) :
    ∃ d', check .atDesk source d = (1, d') ∧ d.Complains d' := by
  rw [check, h]
  exact fail_atDesk e.display d

theorem draw_of_error {e : SyntaxError} (h : compile source (d.saved o) = .error e) :
    ∃ d', draw .atDesk o source d = (1, d') ∧ d.Complains d' := by
  rw [draw, bind_of_eq (readSaved_atDesk o d), h]
  exact fail_atDesk e.display d

/-! ### What a run does -/

theorem run_of_readable (h : d.source? o = some source) :
    run .atDesk o d = if o.check then check .atDesk source d else draw .atDesk o source d := by
  obtain ⟨r, hr, htext⟩ := readSource_atDesk o d
  rw [h] at htext
  rw [run, bind_of_eq hr]
  cases r with
  | error e => cases htext
  | ok s =>
    cases htext
    cases o.check <;> rfl

theorem check_of_ok {x : Diagram} (h : Diagram.parse source = .ok x) (d : Desk) :
    check .atDesk source d = (0, { d with printed := d.printed ++ "ok\n" }) := by
  rw [check, h]
  rfl

theorem draw_of_ok (h : compile source (d.saved o) = .ok g) :
    draw .atDesk o source d = deliver .atDesk o g d := by
  rw [draw, bind_of_eq (readSaved_atDesk o d), h]

theorem deliver_of_none (h : o.saveLayout = none) (g : Graph) (d : Desk) :
    deliver .atDesk o g d = (0, { d with printed := d.printed ++ o.graphText g }) := by
  rw [deliver, h]
  rfl

theorem deliver_of_some (h : o.saveLayout = some path) (g : Graph) (d : Desk) :
    deliver .atDesk o g d =
      saveLayout .atDesk path g { d with printed := d.printed ++ o.graphText g } := by
  rw [deliver, h]
  rfl

theorem saveLayout_of_ok {names : Names} (h : d.spot path = .ok names) (g : Graph) :
    saveLayout .atDesk path g d = (0, d.put names (Arrangement.ofGraph g).text) := by
  have hwrite : Host.atDesk.writeFile path (Arrangement.ofGraph g).text d =
      (.ok (), d.put names (Arrangement.ofGraph g).text) := by
    simp only [Host.atDesk, Desk.write, h]
    rfl
  rw [saveLayout, bind_of_eq hwrite]
  rfl

theorem saveLayout_of_error {fault : FileFault} (h : d.spot path = .error fault) (g : Graph) :
    ∃ d', saveLayout .atDesk path g d = (1, d') ∧ d.Complains d' := by
  have hwrite : Host.atDesk.writeFile path (Arrangement.ofGraph g).text d =
      (.error fault.reason, d) := by
    simp only [Host.atDesk, Desk.write, h]
    rfl
  rw [saveLayout, bind_of_eq hwrite]
  exact fail_atDesk _ d

/-! ### All runs -/

theorem fromUTF8?_toUTF8 (s : String) : String.fromUTF8? s.toUTF8 = some s := by
  unfold String.fromUTF8?
  exact dif_pos s.isValidUTF8

namespace Desk

/-- The text that a run reads is that of a diagram. -/
def Parses (d : Desk) (o : Options) : Prop :=
  ∃ source x, d.source? o = some source ∧ Diagram.parse source = .ok x

/-- The text that a run reads has this graph under the arrangement that the run starts with. -/
def Draws (d : Desk) (o : Options) (g : Graph) : Prop :=
  ∃ source, d.source? o = some source ∧ compile source (d.saved o) = .ok g

theorem parses_iff (h : d.source? o = some source) :
    d.Parses o ↔ ∃ x, Diagram.parse source = .ok x := by
  simp [Parses, h]

theorem draws_iff (h : d.source? o = some source) :
    d.Draws o g ↔ compile source (d.saved o) = .ok g := by
  simp [Draws, h]

/-- The file at `path` now holds the text `s`, and all other files are as they were. -/
def Holds (d d' : Desk) (path s : String) : Prop :=
  d'.textAt? path = some s ∧
    ∃ names, d.spot path = .ok names ∧ ∀ other, other ≠ names → d'.bytes? other = d.bytes? other

theorem holds_put {names : Names} (h : d.spot path = .ok names) (s words : String) :
    d.Holds (({ d with printed := words } : Desk).put names s) path s := by
  have hspot : ({ d with printed := words } : Desk).spot path = d.spot path := spot_congr rfl rfl
  refine ⟨?_, names, h, fun other hother => bytes?_put_of_ne _ s hother.symm⟩
  rw [textAt?, read_put (hspot.trans h)]
  exact fromUTF8?_toUTF8 s

end Desk

/-- What the run of a command may do to a desk, and when it ends with which code. -/
structure Effects (o : Options) (d : Desk) (code : Nat) (d' : Desk) : Prop where
  code_eq : code = 0 ∨ code = 1
  /-- A run that fails changes no file, and it has only printed something if it failed in writing
  the arrangement. -/
  failed : code = 1 → d'.files = d.files ∧
    (d'.printed = d.printed ∨ o.check = false ∧ ∃ g, d.Draws o g ∧
      d'.printed = d.printed ++ o.graphText g ∧
      ∃ path ∈ o.saveLayout, ∃ fault, d.spot path = .error fault)
  checked : o.check = true → d'.files = d.files ∧ (code = 0 ↔ d.Parses o) ∧
    (code = 0 → d'.printed = d.printed ++ "ok\n")
  drawn : o.check = false →
    (code = 0 ↔ ∃ g, d.Draws o g ∧ ∀ path ∈ o.saveLayout, ∃ names, d.spot path = .ok names)
  /-- What a run prints it also writes, and nothing else. -/
  delivered : o.check = false → code = 0 → ∃ g, d.Draws o g ∧
    d'.printed = d.printed ++ o.graphText g ∧ (o.saveLayout = none → d'.files = d.files) ∧
    ∀ path ∈ o.saveLayout, d.Holds d' path (Arrangement.ofGraph g).text

namespace Effects

/-- A run that only complains. -/
theorem of_complains (h : d.Complains d') (hcheck : o.check = true → ¬ d.Parses o)
    (hdraw : o.check = false → ∀ g, ¬ d.Draws o g) : Effects o d 1 d' := by
  obtain ⟨words, rfl⟩ := h
  refine ⟨.inr rfl, fun _ => ⟨rfl, .inl rfl⟩, fun ho => ⟨rfl, ⟨nofun, ?_⟩, nofun⟩,
    fun ho => ?_, nofun⟩
  · exact fun hparses => absurd hparses (hcheck ho)
  · refine ⟨nofun, ?_⟩
    rintro ⟨g, hg, -⟩
    exact absurd hg (hdraw ho g)

theorem of_unreadable (h : d.source? o = none) (hd : d.Complains d') : Effects o d 1 d' := by
  refine of_complains hd (fun _ => ?_) fun _ g => ?_
  · simp [Desk.Parses, h]
  · simp [Desk.Draws, h]

theorem check (ho : o.check = true) (h : d.source? o = some source) :
    ∃ code d', CommandLine.check .atDesk source d = (code, d') ∧ Effects o d code d' := by
  have hyes : ¬ o.check = false := by simp [ho]
  cases hparse : Diagram.parse source with
  | error e =>
    obtain ⟨d', hd', hcomplains⟩ := check_of_error hparse d
    refine ⟨1, d', hd', of_complains hcomplains (fun _ => ?_) fun hno => absurd hno hyes⟩
    simp [Desk.parses_iff h, hparse]
  | ok x =>
    refine ⟨0, _, check_of_ok hparse d, .inl rfl, nofun, fun _ => ?_, fun hno => absurd hno hyes,
      fun hno => absurd hno hyes⟩
    exact ⟨rfl, ⟨fun _ => (Desk.parses_iff h).2 ⟨x, hparse⟩, fun _ => rfl⟩, fun _ => rfl⟩

theorem deliver (ho : o.check = false) (hg : d.Draws o g) :
    ∃ code d', CommandLine.deliver .atDesk o g d = (code, d') ∧ Effects o d code d' := by
  have hno : ¬ o.check = true := by simp [ho]
  cases hsave : o.saveLayout with
  | none =>
    refine ⟨0, _, deliver_of_none hsave g d, .inl rfl, nofun, fun h => absurd h hno, ?_, ?_⟩
    · exact fun _ => ⟨fun _ => ⟨g, hg, by simp [hsave]⟩, fun _ => rfl⟩
    · exact fun _ _ => ⟨g, hg, rfl, fun _ => rfl, by simp [hsave]⟩
  | some path =>
    rw [deliver_of_some hsave]
    set printed : Desk := { d with printed := d.printed ++ o.graphText g } with hprinted
    have hspot : printed.spot path = d.spot path := Desk.spot_congr rfl rfl
    cases hfile : d.spot path with
    | error fault =>
      obtain ⟨d', hd', words, rfl⟩ := saveLayout_of_error (hspot.trans hfile) g
      refine ⟨1, _, hd', .inr rfl, fun _ => ⟨rfl, .inr ?_⟩, fun h => absurd h hno, ?_, nofun⟩
      · exact ⟨ho, g, hg, rfl, path, by simp [hsave], fault, hfile⟩
      · refine fun _ => ⟨nofun, ?_⟩
        rintro ⟨-, -, hnames⟩
        obtain ⟨names, hok⟩ := hnames path (by simp [hsave])
        rw [hfile] at hok
        cases hok
    | ok names =>
      refine ⟨0, _, saveLayout_of_ok (hspot.trans hfile) g, .inl rfl, nofun,
        fun h => absurd h hno, ?_, ?_⟩
      · refine fun _ => ⟨fun _ => ⟨g, hg, ?_⟩, fun _ => rfl⟩
        rw [hsave]
        rintro _ ⟨⟩
        exact ⟨names, hfile⟩
      · refine fun _ _ => ⟨g, hg, rfl, by simp [hsave], ?_⟩
        rw [hsave]
        rintro _ ⟨⟩
        exact Desk.holds_put hfile _ _

theorem draw (ho : o.check = false) (h : d.source? o = some source) :
    ∃ code d', CommandLine.draw .atDesk o source d = (code, d') ∧ Effects o d code d' := by
  cases hg : compile source (d.saved o) with
  | error e =>
    obtain ⟨d', hd', hcomplains⟩ := draw_of_error hg
    refine ⟨1, d', hd', of_complains hcomplains (fun hyes => ?_) fun _ g => ?_⟩
    · exact absurd hyes (by simp [ho])
    · simp [Desk.draws_iff h, hg]
  | ok g =>
    rw [draw_of_ok hg]
    exact deliver ho ((Desk.draws_iff h).2 hg)

end Effects

/-- Every run with accepted arguments, on any desk, ends with the effects of its options. -/
theorem start_effects {args : List String} (h : Options.ofArgs? args = some o) (d : Desk) :
    ∃ code d', start .atDesk args d = (code, d') ∧ Effects o d code d' := by
  rw [start, h]
  cases hsource : d.source? o with
  | none =>
    obtain ⟨d', hrun, hcomplains⟩ := run_of_unreadable hsource
    exact ⟨1, d', hrun, Effects.of_unreadable hsource hcomplains⟩
  | some source =>
    cases ho : o.check with
    | true =>
      obtain ⟨code, d', hcheck, heffects⟩ := Effects.check ho hsource
      exact ⟨code, d', by simp [run_of_readable hsource, ho, hcheck], heffects⟩
    | false =>
      obtain ⟨code, d', hdraw, heffects⟩ := Effects.draw ho hsource
      exact ⟨code, d', by simp [run_of_readable hsource, ho, hdraw], heffects⟩

/-- One file, in a folder below the outermost one. -/
def lonely : Desk where
  files := [(["home", "f"], "scene A \x7b\x7d".toUTF8)]
  folder := ["home"]
  input := .empty
  printed := ""
  complaints := ""

/-- The file is read as the source and as the arrangement, and written in the end. -/
def inPlace : Options where
  file := some "f"
  layout := some "./f"
  saveLayout := some "../home/f"

theorem start_effects_sameFile : ∃ g d',
    compile "scene A \x7b\x7d" (some .empty) = .ok g ∧
    start .atDesk ["f", "--layout", "./f", "--save-layout=../home/f"] lonely = (0, d') ∧
    d'.printed = g.toJson.render .compact ++ "\n" ∧
    d'.textAt? "../home/f" = some (Arrangement.ofGraph g).text := by
  have hargs : Options.ofArgs? ["f", "--layout", "./f", "--save-layout=../home/f"] =
      some inPlace := by decide +kernel
  have hsource : lonely.source? inPlace = some "scene A \x7b\x7d" := by decide +kernel
  have hsaved : lonely.saved inPlace = some .empty := by decide +kernel
  have hspot : lonely.spot "../home/f" = .ok ["home", "f"] := by decide +kernel
  have hcompiles : (compile "scene A \x7b\x7d" (some .empty)).isOk := by decide +kernel
  obtain ⟨code, d', hrun, heffects⟩ := start_effects hargs lonely
  cases hg : compile "scene A \x7b\x7d" (some .empty) with
  | error e => rw [hg] at hcompiles; cases hcompiles
  | ok g =>
    have hdraws : lonely.Draws inPlace g := by
      rw [Desk.draws_iff hsource, hsaved, hg]
    have hcode : code = 0 := by
      refine (heffects.drawn rfl).2 ⟨g, hdraws, ?_⟩
      rintro _ ⟨⟩
      exact ⟨_, hspot⟩
    subst hcode
    obtain ⟨g', hdraws', hprinted, -, hholds⟩ := heffects.delivered rfl rfl
    rw [Desk.draws_iff hsource, hsaved, hg] at hdraws'
    cases hdraws'
    exact ⟨g, d', rfl, hrun, hprinted, (hholds _ rfl).1⟩

end Interaction.CommandLine
