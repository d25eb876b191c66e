import DocAtlas.Command.Probes
import DocAtlas.Command.Run
import DocAtlas.Proofs.Tree.Writing

/-! # What commands leave behind

A command that fails leaves the file tree, the output and the file it was to write as they were, also
if its report is made and then refused. One that succeeds puts its text in one place: the output, or
the file it was given.

* `Command.Reports` — the text a command comes to, or the failure to write its report down
* `Run.EndsBy` — how a run ends that has come so far
* `Run.Holds` — where a run has put its text
* `Command.run_delivers` — what every run leaves behind
-/

set_option autoImplicit false

namespace DocAtlas

/-- The format a command was given. -/
def Command.format? : Command → Option String
  | .discover _ _ format => some format
  | .contents _ _ format _ => some format
  | _ => none

/-- What a command comes to if nothing fails before its report is written down: the text, or the
failure of the serializer that refuses the report. -/
inductive Command.Reports (serializer : Serializer) (tree : Tree) :
    Command → Except Fault String → Prop where
  | check {docs : Option Path} {layout : Layout} {config : Config} {findings : Findings}
      (opened : (Project.openDocs tree docs).result = .ok (layout, config))
      (found : (Findings.find tree ⟨layout, config, []⟩).ending = .done findings) :
      Reports serializer tree (.check docs) (.ok (unlines (findings.lines layout)))
  | discover {docs output : Option Path} {name : String} {format : ReportFormat} {layout : Layout}
      {config : Config} {report : CorpusReport} (known : ReportFormat.ofName? name = some format)
      (opened : (Project.openDocs tree docs).result = .ok (layout, config))
      (found : (Run.corpusReport tree ⟨layout, config, []⟩).ending = .done report) :
      Reports serializer tree (.discover docs output name)
        (report.serialize serializer layout format)
  | contents {docs output : Option Path} {name : String} {format : ReportFormat} {layout : Layout}
      {config : Config} {respects : Bool} {report : ContentsReport}
      (known : ReportFormat.ofName? name = some format)
      (opened : (Project.openDocs tree docs).result = .ok (layout, config))
      (found : (Session.generateContents ⟨layout, config, []⟩ tree respects).ending = .done report) :
      Reports serializer tree (.contents docs output name respects)
        (report.serialize serializer layout format)
  | watch {docs : Option Path} {layout : Layout} {config : Config} {rendered : Except Fault String}
      (opened : (Project.openDocs tree docs).result = .ok (layout, config))
      (checked : Reports serializer tree (.check (some layout.root)) rendered) :
      Reports serializer tree (.watch docs) rendered

namespace Run

/-- Where a run in a tree has put its text: on the output, or in the file it was given. -/
def Holds (tree : Tree) (run : Run) (text : String) : Option Path → Prop
  | none => run.stdout = text ∧ run.written = none ∧ run.tree = tree
  | some p => run.stdout = "" ∧ run.written = some (p, text) ∧ tree.write p text = .ok run.tree ∧
      (tree.IsSound → ∃ names, tree.target p = .ok names ∧
        tree.Overwrites names text.toUTF8 run.tree ∧ run.tree.read p = .ok text.toUTF8)

/-- How a run in a tree ends that has come to a text or to a refusal: a refusal is its failure, and with a
text it is done unless the file it was given cannot be written. -/
def EndsBy (tree : Tree) (output : Option Path) (ending : Ending Nat) : Except Fault String → Prop
  | .error fault => ending = .failed fault
  | .ok text => (∃ code, ending = .done code) ∨
      ∃ p fault, output = some p ∧ tree.write p text = .error fault ∧
        ending = .failed (.ofTree fault)

/-- A run that is not done leaves everything as it was, and one that is done has put a text into its
place. -/
structure Delivers (tree : Tree) (run : Run) (reports : Except Fault String → Prop)
    (output : Option Path) : Prop where
  unchanged : (∀ code, run.ending ≠ .done code) →
    run.tree = tree ∧ run.stdout = "" ∧ run.written = none
  text : ∀ code, run.ending = .done code → ∃ text, reports (.ok text) ∧ run.Holds tree text output

variable {tree : Tree} {reports : Except Fault String → Prop} {output : Option Path}

theorem delivers_failed {run : Run} (hending : ∀ code, run.ending ≠ .done code)
    (htree : run.tree = tree) (hstdout : run.stdout = "") (hwritten : run.written = none) :
    run.Delivers tree reports output where
  unchanged _ := ⟨htree, hstdout, hwritten⟩
  text code hcode := absurd hcode (hending code)

theorem deliver_of_error {p : Path} {report : String} {fault : TreeFault} (notices : List String)
    (h : tree.write p report = .error fault) :
    deliver tree (some p) notices report =
      { ending := .failed (.ofTree fault), notices := notices, tree := tree } := by
  rw [deliver, h]

theorem deliver_of_ok {p : Path} {report : String} {after : Tree} (notices : List String)
    (h : tree.write p report = .ok after) :
    deliver tree (some p) notices report =
      { ending := .done 0, notices := notices ++ [s!"Wrote {p.text}"], written := some (p, report),
        tree := after } := by
  rw [deliver, h]

theorem delivers_deliver {report : String} (notices : List String) (h : reports (.ok report)) :
    (deliver tree output notices report).Delivers tree reports output := by
  cases output with
  | none => exact ⟨fun hnot => absurd rfl (hnot 0), fun _ _ => ⟨report, h, rfl, rfl, rfl⟩⟩
  | some p =>
    cases hwrite : tree.write p report with
    | error fault =>
      rw [deliver_of_error notices hwrite]
      exact delivers_failed (by rintro code ⟨⟩) rfl rfl rfl
    | ok after =>
      rw [deliver_of_ok notices hwrite]
      refine ⟨fun hnot => absurd rfl (hnot 0), fun _ _ => ⟨report, h, rfl, rfl, hwrite, fun hsound => ?_⟩⟩
      obtain ⟨names, htarget, hover, -, hread⟩ := Tree.write_spec hsound hwrite
      exact ⟨names, htarget, hover, hread⟩

theorem delivers_deliverRendered {rendered : Except Fault String} (notices : List String)
    (h : reports rendered) :
    (deliverRendered tree output notices rendered).Delivers tree reports output := by
  cases rendered with
  | error fault => exact delivers_failed (by rintro code ⟨⟩) rfl rfl rfl
  | ok report => exact delivers_deliver notices h

theorem endsBy_deliverRendered (tree : Tree) (output : Option Path) (notices : List String)
    (rendered : Except Fault String) :
    EndsBy tree output (deliverRendered tree output notices rendered).ending rendered := by
  cases rendered with
  | error fault => rfl
  | ok report =>
    cases output with
    | none => exact Or.inl ⟨0, rfl⟩
    | some p =>
      cases hwrite : tree.write p report with
      | error fault =>
        refine Or.inr ⟨p, fault, rfl, hwrite, ?_⟩
        rw [deliverRendered, deliver_of_error notices hwrite]
      | ok after =>
        refine Or.inl ⟨0, ?_⟩
        rw [deliverRendered, deliver_of_ok notices hwrite]

/-- A run in a fresh session delivers what its last step delivers. -/
theorem delivers_ofSession {α : Type} {docs : Option Path} {operation : Session → Outcome α}
    {finish : Layout → α → Run}
    (h : ∀ layout config value, (Project.openDocs tree docs).result = .ok (layout, config) →
      (operation ⟨layout, config, []⟩).ending = .done value →
      (finish layout value).Delivers tree reports output) :
    (ofSession tree docs operation finish).Delivers tree reports output := by
  cases hopened : (Project.openDocs tree docs).result with
  | error fault =>
    simp only [ofSession, hopened]
    exact delivers_failed (by rintro code ⟨⟩) rfl rfl rfl
  | ok opened =>
    obtain ⟨layout, config⟩ := opened
    cases hending : (operation ⟨layout, config, []⟩).ending with
    | done value =>
      have hlast := h layout config value hopened hending
      simp only [ofSession, hopened, hending]
      exact ⟨hlast.unchanged, hlast.text⟩
    | failed fault =>
      simp only [ofSession, hopened, hending]
      exact delivers_failed (by rintro code ⟨⟩) rfl rfl rfl
    | aborted =>
      simp only [ofSession, hopened, hending]
      exact delivers_failed (by rintro code ⟨⟩) rfl rfl rfl

/-- A session that is opened and answers ends as its last step does. -/
theorem endsBy_ofSession {α : Type} {docs : Option Path} {operation : Session → Outcome α}
    {layout : Layout} {config : Config} {value : α} {finish : Layout → α → Run}
    {rendered : Except Fault String}
    (hopened : (Project.openDocs tree docs).result = .ok (layout, config))
    (hending : (operation ⟨layout, config, []⟩).ending = .done value)
    (hlast : EndsBy tree output (finish layout value).ending rendered) :
    EndsBy tree output (ofSession tree docs operation finish).ending rendered := by
  simp only [ofSession, hopened, hending]
  exact hlast

end Run

namespace Command

variable {serializer : Serializer} {tree : Tree}

theorem delivers_check (serializer : Serializer) (tree : Tree) (docs : Option Path) :
    (Run.check tree docs).Delivers tree (Reports serializer tree (.check docs)) none :=
  Run.delivers_ofSession fun layout _ findings hopened hfound =>
    ⟨fun hnot => absurd rfl (hnot findings.code),
      fun _ _ => ⟨unlines (findings.lines layout), .check hopened hfound, rfl, rfl, rfl⟩⟩

theorem delivers_watch (serializer : Serializer) (tree : Tree) (docs : Option Path) :
    (Run.watch tree docs).Delivers tree (Reports serializer tree (.watch docs)) none := by
  cases hopened : (Project.openDocs tree docs).result with
  | error fault =>
    simp only [Run.watch, hopened]
    exact Run.delivers_failed (by rintro code ⟨⟩) rfl rfl rfl
  | ok opened =>
    obtain ⟨layout, config⟩ := opened
    have hcheck := delivers_check serializer tree (some layout.root)
    simp only [Run.watch, hopened]
    refine ⟨hcheck.unchanged, fun code hcode => ?_⟩
    obtain ⟨text, htext, hholds⟩ := hcheck.text code hcode
    exact ⟨text, .watch hopened htext, hholds⟩

theorem delivers_discover (serializer : Serializer) (tree : Tree) (docs output : Option Path)
    (name : String) :
    (Run.discover tree docs output name serializer).Delivers tree
      (Reports serializer tree (.discover docs output name)) output := by
  unfold Run.discover ReportFormat.ofName
  cases hknown : ReportFormat.ofName? name with
  | none => exact Run.delivers_failed (by rintro code ⟨⟩) rfl rfl rfl
  | some format =>
    refine Run.delivers_ofSession fun layout config report hopened hfound => ?_
    exact Run.delivers_deliverRendered _ (.discover hknown hopened hfound)

theorem delivers_contents (serializer : Serializer) (tree : Tree) (docs output : Option Path)
    (name : String) (respects : Bool) :
    (Run.contents tree docs output name respects serializer).Delivers tree
      (Reports serializer tree (.contents docs output name respects)) output := by
  unfold Run.contents ReportFormat.ofName
  cases hknown : ReportFormat.ofName? name with
  | none => exact Run.delivers_failed (by rintro code ⟨⟩) rfl rfl rfl
  | some format =>
    refine Run.delivers_ofSession fun layout config report hopened hfound => ?_
    exact Run.delivers_deliverRendered _ (.contents hknown hopened hfound)

theorem delivers (serializer : Serializer) (tree : Tree) (command : Command) :
    (command.run tree serializer).Delivers tree (command.Reports serializer tree)
      command.output := by
  cases command with
  | check docs => exact delivers_check serializer tree docs
  | discover docs output name => exact delivers_discover serializer tree docs output name
  | contents docs output name respects =>
    exact delivers_contents serializer tree docs output name respects
  | watch docs => exact delivers_watch serializer tree docs

/-- What a command comes to decides how its run ends. -/
theorem Reports.endsBy {command : Command} {rendered : Except Fault String}
    (h : command.Reports serializer tree rendered) :
    Run.EndsBy tree command.output (command.run tree serializer).ending rendered := by
  induction h with
  | check hopened hfound => exact Run.endsBy_ofSession hopened hfound (Or.inl ⟨_, rfl⟩)
  | discover hknown hopened hfound =>
    simp only [run, Run.discover, ReportFormat.ofName, hknown]
    exact Run.endsBy_ofSession hopened hfound (Run.endsBy_deliverRendered tree _ _ _)
  | contents hknown hopened hfound =>
    simp only [run, Run.contents, ReportFormat.ofName, hknown]
    exact Run.endsBy_ofSession hopened hfound (Run.endsBy_deliverRendered tree _ _ _)
  | watch hopened hchecked ih =>
    simp only [run, Run.watch, hopened]
    exact ih

theorem ending_of_unknown_format {command : Command} {name : String}
    (hname : command.format? = some name) (hunknown : ReportFormat.ofName? name = none) :
    (command.run tree serializer).ending = .failed (.unknownFormat name) := by
  cases command with
  | check docs => cases hname
  | watch docs => cases hname
  | discover docs output format =>
    cases hname
    rw [run, Run.discover, ReportFormat.ofName, hunknown]
  | contents docs output format respects =>
    cases hname
    rw [run, Run.contents, ReportFormat.ofName, hunknown]

/-- An unknown format is what fails before all else. A run that comes to a report fails if the report is
refused, and is done else, unless the file it was given cannot be written. A run that fails, or is
broken off, leaves the tree and the output as they were. A run that is done has its whole text in one
place: on the output, with the tree as it was, or in the file it was given, with nothing else changed. A
command without such a file never changes the tree. -/
theorem run_delivers (serializer : Serializer) (tree : Tree) (command : Command) :
    (∀ name, command.format? = some name → ReportFormat.ofName? name = none →
      (command.run tree serializer).ending = .failed (.unknownFormat name)) ∧
    (∀ rendered, command.Reports serializer tree rendered →
      Run.EndsBy tree command.output (command.run tree serializer).ending rendered) ∧
    ((∀ code, (command.run tree serializer).ending ≠ .done code) →
      (command.run tree serializer).tree = tree ∧ (command.run tree serializer).stdout = "" ∧
        (command.run tree serializer).written = none) ∧
    (∀ code, (command.run tree serializer).ending = .done code →
      ∃ text, command.Reports serializer tree (.ok text) ∧
        (command.run tree serializer).Holds tree text command.output) ∧
    (command.output = none → (command.run tree serializer).tree = tree) := by
  have hdelivers := delivers serializer tree command
  refine ⟨fun name hname hunknown => ending_of_unknown_format hname hunknown,
    fun _ hreports => hreports.endsBy, hdelivers.unchanged, hdelivers.text, fun houtput => ?_⟩
  by_cases hdone : ∃ code, (command.run tree serializer).ending = .done code
  · obtain ⟨code, hcode⟩ := hdone
    obtain ⟨text, -, hholds⟩ := hdelivers.text code hcode
    rw [houtput] at hholds
    exact hholds.2.2
  · exact (hdelivers.unchanged fun code hcode => hdone ⟨code, hcode⟩).1

end Command

/-- A documentation with one document, and a link to a file in it that is not there yet. -/
def linkedOutput : Tree where
  root := .dir "docs" (.file "index.md" "# A".toUTF8 .nil) (.link "out.json" "docs/toc.json" .nil)
  wellFormed := by decide +kernel

theorem linkedOutput_isSound : linkedOutput.IsSound where
  base := by decide +kernel
  targets := by
    have hdocs : ∀ names target,
        (Listing.file "index.md" "# A".toUTF8 .nil).entryAt? names ≠ some (.link target) := by
      intro names target h
      rcases names with _ | ⟨x, _ | ⟨y, rest⟩⟩
      · cases h
      · simp only [Listing.entryAt?, Listing.find?] at h
        split at h <;> cases h
      · obtain ⟨inside, hfind, -⟩ := Listing.find?_of_entryAt?_cons (List.cons_ne_nil y rest) h
        rw [Listing.find?] at hfind
        split at hfind <;> cases hfind
    intro names target h
    rcases names with _ | ⟨x, rest⟩
    · cases h
    · by_cases hx : "docs" = x
      · subst hx
        rw [Listing.entryAt?_cons_dir rest rfl] at h
        exact absurd h (hdocs rest target)
      · rcases rest with _ | ⟨y, rest⟩
        · simp only [linkedOutput, Listing.entryAt?, Listing.find?, if_neg hx] at h
          split at h
          · cases h
            decide
          · cases h
        · obtain ⟨inside, hfind, -⟩ := Listing.find?_of_entryAt?_cons (List.cons_ne_nil y rest) h
          simp only [linkedOutput, Listing.find?, if_neg hx] at hfind
          split at hfind <;> cases hfind

/-- A serializer that refuses all JSON. -/
def refusingJson : Serializer where
  jsonRefusal? _ := some "path contains invalid UTF-8 characters"

/-- The table of contents is written through the link into the documentation. A corpus that is refused
leaves the document that was to be replaced as it was. -/
theorem run_delivers_linkedOutput :
    (∃ text, ((Command.contents (some ⟨"/docs"⟩) (some ⟨"/out.json"⟩) "JSON" false).run
        linkedOutput).written = some (⟨"/out.json"⟩, text) ∧
      linkedOutput.Overwrites ["docs", "toc.json"] text.toUTF8
        ((Command.contents (some ⟨"/docs"⟩) (some ⟨"/out.json"⟩) "JSON" false).run
          linkedOutput).tree) ∧
    let refused := (Command.discover (some ⟨"/docs"⟩) (some ⟨"/docs/index.md"⟩) "json").run
      linkedOutput refusingJson
    refused.ending = .failed (.json "path contains invalid UTF-8 characters") ∧
      refused.tree = linkedOutput ∧ refused.stdout = "" := by
  constructor
  · have hdone : ((Command.contents (some ⟨"/docs"⟩) (some ⟨"/out.json"⟩) "JSON" false).run
        linkedOutput).ending = .done 0 := by
      rfl
    obtain ⟨-, -, -, hdelivers, -⟩ := Command.run_delivers {} linkedOutput
      (.contents (some ⟨"/docs"⟩) (some ⟨"/out.json"⟩) "JSON" false)
    obtain ⟨text, -, -, hwritten, -, hfile⟩ := hdelivers 0 hdone
    obtain ⟨names, htarget, hover, -⟩ := hfile linkedOutput_isSound
    have hnames : linkedOutput.target ⟨"/out.json"⟩ = .ok ["docs", "toc.json"] := by
      rfl
    rw [hnames] at htarget
    cases htarget
    exact ⟨text, hwritten, hover⟩
  · intro refused
    have hending : refused.ending = .failed (.json "path contains invalid UTF-8 characters") := by
      rfl
    obtain ⟨-, -, hunchanged, -⟩ := Command.run_delivers refusingJson linkedOutput
      (.discover (some ⟨"/docs"⟩) (some ⟨"/docs/index.md"⟩) "json")
    obtain ⟨htree, hstdout, -⟩ := hunchanged fun code hcode => by
      cases hending.symm.trans hcode
    exact ⟨hending, htree, hstdout⟩

end DocAtlas
