import Registrar.Draft
import Registrar.PathMap
import Registrar.Text.Encoding

/-!
# A build

A build takes the events of a stream one by one and keeps one draft for every generated file. The
location of an event says which draft it belongs to; a draft comes into being with the first event
that needs it, and learns of the module whether the module was declared before or after. The files
come out once: after that nothing changes any more, and further events have no effect.
-/

namespace Registrar

/-- The contents of the generated files by their paths. -/
abbrev GeneratedFiles := PathMap Text.Bytes

/-- The state of a build. -/
structure Build where
  drafts : PathMap Draft
  /-- the declaration of the module, once it was seen -/
  binding : Option ModuleDecl
  /-- whether the files have come out -/
  finished : Bool
  deriving DecidableEq, Repr

namespace Build

/-- A build that has seen nothing. -/
def start : Build :=
  ⟨[], none, false⟩

/-- The draft of a path, when an event has led there. -/
def draft? (b : Build) (path : Path) : Option Draft :=
  b.drafts.find? path

/-- The draft that comes into being for a location. -/
def newDraft (b : Build) (l : Location) : Draft :=
  match b.binding with
  | some m => (Draft.ofLocation l).bind m
  | none => Draft.ofLocation l

/-- Puts a draft in the place of the one for a location. -/
def store (b : Build) (l : Location) (d : Draft) : Build :=
  { b with drafts := b.drafts.insert l.outputPath d }

/-- Work on a build, step by step. What was changed before a failure stays changed. -/
abbrev Action (α : Type) :=
  ExceptT BuildError (StateM Build) α

/-- Work goes on where its first part has led, unless that part fails. -/
theorem Action.run_bind {α β : Type} (first : Action α) (next : α → Action β) (b : Build) :
    (first >>= next).run b =
      match first.run b with
      | (.ok a, later) => (next a).run later
      | (.error e, later) => (.error e, later) := by
  change (let (r, later) := first.run b; ExceptT.bindCont next r later) = _
  rcases first.run b with ⟨_ | a, later⟩ <;> rfl

/-! ## Events -/

/-- The one declaration of an occurrence. -/
def only {α : Type} (kind : Kind) (o : Occurrence α) : Except BuildError α :=
  o.single.mapError (.cardinality kind)

/-- Takes the one declaration of an occurrence. The occurrence is checked even when the build is
finished; then it has no further effect. -/
def take {α : Type} (kind : Kind) (o : Occurrence α) (record : α → Action Unit) : Action Unit := do
  let declaration ← only kind o
  if (← get).finished then return
  record declaration

/-- Records the module, in every draft and in the build. -/
def declareModule (m : ModuleDecl) : Action Unit := do
  match (← get).binding with
  | some _ => throw .duplicateModule
  | none =>
    modify fun b => { b with drafts := b.drafts.mapValues (·.bind m) }
    modify fun b => { b with binding := some m }

/-- The draft for a location. Where there is none, a new one comes into being. -/
def draftFor (l : Location) : Action Draft := do
  let b ← get
  match b.draft? l.outputPath with
  | some d => return d
  | none =>
    set (b.store l (b.newDraft l))
    return b.newDraft l

/-- Changes the draft for a location. -/
def amend (l : Location) (change : Draft → Except BuildError Draft) : Action Unit := do
  let d ← change (← draftFor l)
  modify (·.store l d)

/-- Takes one event. -/
def process : Event → Action Unit
  | .module o => take .module o declareModule
  | .plugin o => take .plugin o fun p => amend o.location (·.addPlugin p)
  | .state o => take .state o fun s => amend o.location fun d => return d.addState s
  | .action o => take .action o fun a => amend o.location fun d => return d.addAction a
  | .config o => take .config o fun c => amend o.location fun d => return d.addConfig c

/-- The build after an event that it takes. -/
def accept (b : Build) (event : Event) : Except BuildError Build :=
  match (process event).run b with
  | (.ok (), next) => .ok next
  | (.error e, _) => .error e

/-! ## Files -/

/-- Renders drafts in their order; the first failure wins. -/
def renderAll : PathMap Draft → Except BuildError GeneratedFiles
  | [] => .ok []
  | (path, draft) :: rest => do
    let text ← draft.render
    return (path, Text.encode text) :: (← renderAll rest)

/-- Brings out the files, once. A build that fails to render a draft is not finished. -/
def release : Action GeneratedFiles := do
  let b ← get
  if b.finished then return []
  let files ← renderAll b.drafts
  set { b with finished := true }
  return files

/-- The files, and the build after they have come out. -/
def produce (b : Build) : Except BuildError (GeneratedFiles × Build) :=
  match release.run b with
  | (.ok files, next) => .ok (files, next)
  | (.error e, _) => .error e

end Build

/-- Takes a stream of events and brings out the files. -/
def Build.complete (events : List Event) : Build.Action GeneratedFiles := do
  events.forM Build.process
  Build.release

/-- The files that a stream of events generates. -/
def generate (events : List Event) : Except BuildError GeneratedFiles :=
  ((Build.complete events).run Build.start).1

/-- Taking a stream of events is taking them one after the other, up to the first failure. -/
theorem Build.complete_run_fst (b : Build) (events : List Event) :
    ((complete events).run b).1 = do
      let last ← events.foldlM accept b
      return (← last.produce).1 := by
  induction events generalizing b with
  | nil =>
    change (release.run b).1 = (b.produce >>= fun out => pure out.1)
    unfold produce
    rcases release.run b with ⟨_ | files, next⟩ <;> rfl
  | cons event events ih =>
    have hstep : complete (event :: events) = process event >>= fun _ => complete events := by
      simp [complete]
    rw [hstep, Action.run_bind, List.foldlM_cons]
    unfold accept
    rcases (process event).run b with ⟨_ | ⟨⟩, next⟩
    · rfl
    · exact ih next

end Registrar
