import DocAtlas.Proofs.Site.Agreement

/-! # What happened before

A session may be asked anything, in any order, while the file tree changes under it. Its layout and
its configuration stay what they were, and a discovery forgets the rest, so that a corpus and a table
of contents are those of a session that was never asked before.

* `Session.Operation` — what a session can be asked
* `Session.after` — the session behind a history of operations, each in a tree of its own
* `Session.Operation.keeps` — what one operation leaves as it was
* `Session.keepsTo_after` — what a whole history leaves as it was
* `Session.returns_as_renewed` — a discovery and a table of contents tell nothing of the history
-/

set_option autoImplicit false

namespace DocAtlas

namespace Session

/-! ## Histories -/

/-- What a session can be asked. -/
inductive Operation where
  | content (p : Path)
  | discover
  | resolve (corpus : Corpus)
  | loadToctrees
  | findOrphans (tracked : TextSet)
  | place (p : Path)
  | buildContents (corpus : Corpus) (toctrees : ToctreeReport)
  | generateContents (respectToctrees : Bool)

/-- The session behind an operation in a tree. -/
def Operation.run (operation : Operation) (session : Session) (tree : Tree) : Session :=
  match operation with
  | .content p => (session.readContent tree p).session
  | .discover => (session.discover tree).session
  | .resolve corpus => (session.resolve tree corpus).session
  | .loadToctrees => (session.loadToctrees tree).session
  | .findOrphans tracked => (session.findOrphans tree tracked).session
  | .place p => (session.place tree p).session
  | .buildContents corpus toctrees => (session.buildContents tree corpus toctrees).session
  | .generateContents respectToctrees => (session.generateContents tree respectToctrees).session

/-- The session behind a history of operations, each in the tree as it was then. -/
def after (session : Session) (history : List (Operation × Tree)) : Session :=
  history.foldl (fun session asked => asked.1.run session asked.2) session

/-! ## What an operation keeps -/

/-- Two sessions look at the same documentation under the same configuration. -/
structure KeepsTo (session other : Session) : Prop where
  layout_eq : other.layout = session.layout
  config_eq : other.config = session.config

namespace KeepsTo

variable {session other last : Session}

theorem refl (session : Session) : session.KeepsTo session := ⟨rfl, rfl⟩

theorem trans (h : session.KeepsTo other) (hlast : other.KeepsTo last) : session.KeepsTo last :=
  ⟨hlast.layout_eq.trans h.layout_eq, hlast.config_eq.trans h.config_eq⟩

theorem settle (session : Session) (tree : Tree) {α : Type} (events : List Event) (value : α) :
    session.KeepsTo (session.settle tree events value).session :=
  ⟨layout_settle session events value, config_settle session events value⟩

theorem discover (session : Session) (tree : Tree) :
    session.KeepsTo (session.discover tree).session := by
  cases hdir : tree.isDir session.layout.root with
  | true =>
    rw [discover_of_isDir hdir]
    exact ⟨(settle session.renewed tree _ _).layout_eq, (settle session.renewed tree _ _).config_eq⟩
  | false =>
    rw [discover_of_not_isDir hdir]
    exact refl session

theorem andThen {α β : Type} {first : Outcome α} {next : α → Session → Outcome β}
    (hfirst : session.KeepsTo first.session)
    (hnext : ∀ value middle, Session.KeepsTo middle (next value middle).session) :
    session.KeepsTo (first.andThen next).session := by
  unfold Outcome.andThen
  split
  · exact hfirst.trans (hnext _ first.session)
  · exact hfirst
  · exact hfirst

theorem generateContents (session : Session) (tree : Tree) (respectToctrees : Bool) :
    session.KeepsTo (session.generateContents tree respectToctrees).session := by
  refine (discover session tree).andThen fun corpus second => ?_
  refine KeepsTo.andThen (settle second tree _ _) fun links third => ?_
  refine KeepsTo.andThen (settle third tree _ _) fun toctrees fourth => ?_
  exact KeepsTo.andThen (settle fourth tree _ _) fun report fifth => refl fifth

end KeepsTo

theorem Operation.keeps (operation : Operation) (session : Session) (tree : Tree) :
    session.KeepsTo (operation.run session tree) := by
  cases operation with
  | content p => exact KeepsTo.settle session tree _ _
  | discover => exact KeepsTo.discover session tree
  | resolve corpus => exact KeepsTo.settle session tree _ _
  | loadToctrees => exact KeepsTo.settle session tree _ _
  | findOrphans tracked => exact KeepsTo.settle session tree _ _
  | place p => exact KeepsTo.settle session tree _ _
  | buildContents corpus toctrees => exact KeepsTo.settle session tree _ _
  | generateContents respectToctrees => exact KeepsTo.generateContents session tree respectToctrees

theorem keepsTo_after (session : Session) (history : List (Operation × Tree)) :
    session.KeepsTo (session.after history) := by
  induction history generalizing session with
  | nil => exact KeepsTo.refl session
  | cons asked rest ih => exact (asked.1.keeps session asked.2).trans (ih _)

/-! ## What a discovery forgets -/

section Memory

variable {tree : Tree}

theorem discover_renewed (session : Session) (hdir : tree.isDir session.layout.root = true) :
    session.discover tree = session.renewed.discover tree := by
  rw [discover_of_isDir hdir, discover_of_isDir (by exact hdir)]
  rfl

theorem generateContents_renewed (session : Session) (respectToctrees : Bool)
    (hdir : tree.isDir session.layout.root = true) :
    session.generateContents tree respectToctrees =
      session.renewed.generateContents tree respectToctrees :=
  (generateContents_memory session [] tree respectToctrees hdir).symm

/-- Without a root nothing is forgotten, but nothing is read either. -/
theorem answers_renewed_of_not_isDir (session : Session)
    (hdir : tree.isDir session.layout.root = false) (respectToctrees : Bool) :
    let fault : Fault := .docsDirNotFound session.layout.root
    (session.discover tree).ending = .failed fault ∧ (session.discover tree).log = [] ∧
      (session.generateContents tree respectToctrees).ending = .failed fault ∧
      (session.generateContents tree respectToctrees).log = [] := by
  have hdiscover := discover_of_not_isDir hdir
  have hlog : (session.generateContents tree respectToctrees).log = [] := by
    unfold generateContents Outcome.andThen
    rw [hdiscover]
  exact ⟨by rw [hdiscover], by rw [hdiscover],
    generateContents_of_not_isDir respectToctrees hdir, hlog⟩

end Memory

theorem renewed_after (session : Session) (history : List (Operation × Tree)) :
    (session.after history).renewed = session.renewed := by
  have hkeeps := keepsTo_after session history
  rw [renewed, hkeeps.layout_eq, hkeeps.config_eq, renewed]

/-- Whatever a session was asked before, and in whatever trees, a discovery and a table of contents end
as for a session that was never asked, and log the same. -/
theorem returns_as_renewed (session : Session) (history : List (Operation × Tree)) (tree : Tree) :
    let later := session.after history
    ((later.discover tree).ending = (session.renewed.discover tree).ending ∧
      (later.discover tree).log = (session.renewed.discover tree).log) ∧
    ∀ respectToctrees,
      (later.generateContents tree respectToctrees).ending =
        (session.renewed.generateContents tree respectToctrees).ending ∧
      (later.generateContents tree respectToctrees).log =
        (session.renewed.generateContents tree respectToctrees).log := by
  intro later
  rw [← renewed_after session history]
  cases hdir : tree.isDir later.layout.root with
  | true =>
    have hdiscover := discover_renewed later hdir
    have hgenerate := fun respectToctrees => generateContents_renewed later respectToctrees hdir
    refine ⟨⟨congrArg Outcome.ending hdiscover, congrArg Outcome.log hdiscover⟩, fun respect => ?_⟩
    exact ⟨congrArg Outcome.ending (hgenerate respect), congrArg Outcome.log (hgenerate respect)⟩
  | false =>
    have hfirst := answers_renewed_of_not_isDir later hdir
    have hlast := answers_renewed_of_not_isDir later.renewed hdir
    obtain ⟨hdone, hlog, -⟩ := hfirst true
    obtain ⟨hdone', hlog', -⟩ := hlast true
    refine ⟨⟨hdone.trans hdone'.symm, hlog.trans hlog'.symm⟩, fun respect => ?_⟩
    obtain ⟨-, -, hreport, hsaid⟩ := hfirst respect
    obtain ⟨-, -, hreport', hsaid'⟩ := hlast respect
    exact ⟨hreport.trans hreport'.symm, hsaid.trans hsaid'.symm⟩

end Session

end DocAtlas
