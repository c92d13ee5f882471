import Registrar.Emission
import Registrar.Proofs.Files.Growth

/-!
# What emission does to the files of a world

`FileTree.holds?` is the verdict on one file: whether it holds its content, or why that cannot be
told. What emission does with a file follows from the verdict and the settings
(`emitFile_run_of_holds`, `emitFile_run_check`, `emitFile_write_ok`). A write only makes directories
where nothing is and gives the one file its content (`writeFile_ok`).
-/

namespace Registrar

open Log (Record pathField numberField)
open Text (Bytes)

/-! ## Actions by what they change -/

/-- The action relates the files before it to those after it. -/
def Changes (R : FileTree → FileTree → Prop) {α : Type} (action : StateM World α) : Prop :=
  ∀ w, R w.tree (action.run w).2.tree

/-- An action that changes no file. -/
abbrev LeavesFiles {α : Type} (action : StateM World α) : Prop :=
  Changes Eq action

section Changes

variable {R : FileTree → FileTree → Prop} {α β : Type}

theorem LeavesFiles.changes {action : StateM World α} (h : LeavesFiles action)
    (hrefl : ∀ t, R t t) : Changes R action := by
  intro w
  rw [← h w]
  exact hrefl w.tree

theorem changes_pure (hrefl : ∀ t, R t t) (a : α) : Changes R (pure a : StateM World α) :=
  fun w => hrefl w.tree

theorem Changes.bind {first : StateM World α} {next : α → StateM World β}
    (hfirst : Changes R first) (hnext : ∀ a, Changes R (next a))
    (htrans : ∀ {t u v}, R t u → R u v → R t v) : Changes R (first >>= next) :=
  fun w => htrans (hfirst w) (hnext (first.run w).1 (first.run w).2)

theorem Changes.bind_run {first : ExceptT IoFailure (StateM World) α}
    {next : α → ExceptT IoFailure (StateM World) β} (hfirst : Changes R first.run)
    (hnext : ∀ a, Changes R (next a).run) (htrans : ∀ {t u v}, R t u → R u v → R t v) :
    Changes R (first >>= next).run := by
  intro w
  have hw : R w.tree (first.run w).2.tree := hfirst w
  change R w.tree ((first >>= next).run w).2.tree
  rw [run_bind]
  revert hw
  rcases first.run w with ⟨result, w'⟩
  cases result with
  | ok a => exact fun hw => htrans hw (hnext a w')
  | error reason => exact id

end Changes

/-- Whether a file holds exactly a content, when that can be told; an absent file does not. -/
def FileTree.holds? (t : FileTree) (p : Path) (content : Bytes) : Except OsError Bool :=
  match t.read p with
  | .ok existing => .ok (existing = content)
  | .error .notFound => .ok false
  | .error reason => .error reason

namespace FileTree

variable {t : FileTree} {p : Path} {content : Bytes}

theorem holds?_eq_true_iff :
    t.holds? p content = .ok true ↔ t.read p = .ok content := by
  unfold holds?
  cases t.read p with
  | ok existing => simp
  | error reason => cases reason <;> simp

theorem holds?_eq_false_iff : t.holds? p content = .ok false ↔
    t.read p = .error .notFound ∨ ∃ old, t.read p = .ok old ∧ old ≠ content := by
  unfold holds?
  cases t.read p with
  | ok existing => simp
  | error reason => cases reason <;> simp

end FileTree

/-! ## What a world grants -/

namespace World

theorem update_run (change : FileTree → Except OsError FileTree) (w : World) :
    (update change).run w =
      match change w.tree with
      | .ok tree => (.ok (), { w with tree })
      | .error e => (.error e, w) :=
  rfl

variable {p : Path} {content : Bytes} {change : Bytes → FileTree → Except OsError FileTree}
  {w w' : World}

theorem request_run (p : Path) (content : Bytes)
    (change : Bytes → FileTree → Except OsError FileTree) (w : World) :
    (request p content change).run w =
      match w.grant w.tree p with
      | .whole => (update (change content)).run w
      | .refused reason => (.error reason, w)
      | .broken stored reason =>
        (((update (change (content.take stored))).run w).1 >>= fun _ => .error reason,
          ((update (change (content.take stored))).run w).2) :=
  rfl

/-- What succeeds was granted as a whole. -/
theorem request_ok (h : (request p content change).run w = (.ok (), w')) :
    change content w.tree = .ok w'.tree := by
  rw [request_run] at h
  cases hgrant : w.grant w.tree p with
  | whole =>
    rw [hgrant] at h
    dsimp only at h
    rw [update_run] at h
    cases hchange : change content w.tree with
    | error e =>
      rw [hchange] at h
      cases (Prod.mk.inj h).1
    | ok tree =>
      rw [hchange] at h
      obtain rfl := (Prod.mk.inj h).2
      rfl
  | refused reason =>
    rw [hgrant] at h
    cases (Prod.mk.inj h).1
  | broken stored reason =>
    rw [hgrant] at h
    obtain ⟨_, -, hfailed⟩ := bind_eq_ok_iff.mp (Prod.mk.inj h).1
    cases hfailed

end World

section Requests

variable {R : FileTree → FileTree → Prop} (hrefl : ∀ t, R t t)

include hrefl

theorem changes_update {change : FileTree → Except OsError FileTree}
    (h : ∀ {t u}, change t = .ok u → R t u) : Changes R (World.update change) := by
  intro w
  rw [World.update_run]
  cases hchange : change w.tree with
  | ok u => exact h hchange
  | error e => exact hrefl w.tree

/-- However much of a content is stored, what comes of it counts. -/
theorem changes_request (p : Path) (content : Bytes)
    (change : Bytes → FileTree → Except OsError FileTree)
    (h : ∀ {stored t u}, change stored t = .ok u → R t u) :
    Changes R (World.request p content change) := by
  intro w
  rw [World.request_run]
  cases w.grant w.tree p with
  | whole => exact changes_update hrefl h w
  | refused reason => exact hrefl w.tree
  | broken stored reason => exact changes_update hrefl h w

theorem changes_requestDirectory {p : Path}
    (h : ∀ {t u : FileTree}, t.makeDirectory p = .ok u → R t u) :
    Changes R (World.requestDirectory p) := by
  intro w
  unfold World.requestDirectory
  change R w.tree (match w.grant w.tree p with
    | .whole => World.update (fun t => t.makeDirectory p) w
    | .refused reason | .broken _ reason => (.error reason, w)).2.tree
  cases w.grant w.tree p with
  | whole => exact changes_update hrefl h w
  | refused reason => exact hrefl w.tree
  | broken stored reason => exact hrefl w.tree

end Requests

/-! ## Making directories -/

section Directories

variable {R : FileTree → FileTree → Prop} {P : Path → Prop} (hrefl : ∀ t, R t t)
  (htrans : ∀ {t u v}, R t u → R u v → R t v)
  (hmake : ∀ {t u : FileTree} {p}, P p → t.makeDirectory p = .ok u → R t u)

include hrefl htrans hmake

theorem changes_ensureDirectory {p : Path} (hp : P p) :
    Changes R (Disk.ensureDirectory p : StateM World _) := by
  unfold Disk.ensureDirectory
  refine (changes_requestDirectory hrefl (hmake hp)).bind (fun result => ?_) htrans
  cases result with
  | ok _ => exact changes_pure hrefl _
  | error reason =>
    refine Changes.bind (fun w => hrefl w.tree) (fun found => ?_) htrans
    split_ifs <;> exact changes_pure hrefl _

variable (hparent : ∀ {p parent : Path}, P p → p.parent = some parent → P parent)

include hparent

theorem changes_makeDirectoriesUpTo (fuel : Nat) {p : Path} (hp : P p) :
    Changes R (Disk.makeDirectoriesUpTo fuel p : StateM World _) := by
  induction fuel generalizing p with
  | zero => exact changes_pure hrefl _
  | succ fuel ih =>
    unfold Disk.makeDirectoriesUpTo
    split_ifs
    · exact changes_pure hrefl _
    · refine (changes_ensureDirectory hrefl htrans hmake hp).bind (fun result => ?_) htrans
      -- only a directory whose parent is missing is tried again, behind that parent
      split
      · split
        · exact changes_pure hrefl _
        · next parent hparentOf =>
          refine (ih (hparent hp hparentOf)).bind (fun result => ?_) htrans
          split
          · exact changes_pure hrefl _
          · exact changes_ensureDirectory hrefl htrans hmake hp
      · exact changes_pure hrefl _

/-- A relation that making the directories of some paths brings about, among them those that a path
lies in, holds between the files before and after all of these are made. -/
theorem changes_makeDirectories {p : Path} (hp : P p) :
    Changes R (Disk.makeDirectories p : StateM World _) :=
  changes_makeDirectoriesUpTo hrefl htrans hmake hparent _ hp

end Directories

/-! ## One file -/

namespace Emission

/-- A part of emission on a world. -/
abbrev Action (α : Type) :=
  ExceptT IoFailure (StateM World) α

variable {log : Record → StateM World Unit} {o : OutputSettings} {path : Path} {content : Bytes}
  {w w' : World} {outcome : Outcome} {reason : OsError}

theorem onPath_run {α : Type} (path : Path) (action : StateM World (Except OsError α)) (w : World) :
    (onPath path action).run w =
      ((action.run w).1.mapError fun reason => ⟨path, reason⟩, (action.run w).2) :=
  rfl

theorem isUpToDate_run (path : Path) (content : Bytes) (w : World) :
    (isUpToDate path content : Action Bool).run w =
      ((w.tree.holds? path content).mapError fun reason => ⟨path, reason⟩, w) := by
  unfold isUpToDate FileTree.holds?
  rw [run_bind]
  change (match w.tree.read path with
    | .ok existing => pure (decide (existing = content))
    | .error .notFound => pure false
    | .error reason => throw ⟨path, reason⟩ : Action Bool).run w = _
  cases w.tree.read path with
  | ok existing => rfl
  | error reason => cases reason <;> rfl

theorem write_ok
    (h : (onPath path (Disk.write path content) : Action Unit).run w = (.ok (), w')) :
    FileTree.Grows [w.tree.target path] w.tree w'.tree ∧ w'.tree.read path = .ok content := by
  rw [onPath_run] at h
  rcases hwrite : (Disk.write path content : StateM World _).run w with ⟨_ | ⟨⟩, u⟩
  · rw [hwrite] at h
    cases (Prod.mk.inj h).1
  · rw [hwrite] at h
    obtain rfl := (Prod.mk.inj h).2
    have hmodify := World.request_ok hwrite
    exact ⟨.of_modify hmodify, FileTree.read_of_modify hmodify⟩

/-- Giving a file its content makes directories where nothing is and changes no other file. -/
theorem writeFile_ok (h : (writeFile path content : Action Unit).run w = (.ok (), w')) :
    FileTree.Grows [w.tree.target path] w.tree w'.tree ∧
      w'.tree.read path = .ok content := by
  unfold writeFile at h
  split at h
  · next parent _ =>
    split_ifs at h
    · exact write_ok h
    · rw [run_bind, onPath_run] at h
      have hmake : FileTree.Grows [] w.tree
          ((Disk.makeDirectories parent : StateM World _).run w).2.tree :=
        changes_makeDirectories (R := FileTree.Grows []) (P := fun _ => True) (.refl []) .trans
          (fun _ => .of_makeDirectory) (fun _ _ => trivial) trivial w
      revert h hmake
      rcases (Disk.makeDirectories parent : StateM World _).run w with ⟨result, u⟩
      cases result with
      | error e =>
        intro h hmake
        cases (Prod.mk.inj h).1
      | ok _ =>
        intro h hmake
        -- the write names the same place in the tree that has its directories
        obtain ⟨hwrite, hread⟩ := write_ok h
        rw [hmake.target path] at hwrite
        exact ⟨(hmake.mono (List.nil_subset _)).trans hwrite, hread⟩
  · exact write_ok h

/-- Reports that a file holds its content. -/
def unchangedRecord (path : Path) : Record :=
  ⟨.debug, runTarget, "Generated file unchanged", [pathField "path" path]⟩

/-- Reports that a file does not hold its content. -/
def staleRecord (path : Path) : Record :=
  ⟨.info, runTarget, "Generated file is stale", [pathField "path" path]⟩

/-- Reports that a file was given its content. -/
def writtenRecord (path : Path) (content : Bytes) : Record :=
  ⟨.info, runTarget, "Generated file written",
    [pathField "path" path, numberField "bytes" content.length]⟩

/-- All that emission does with one file. -/
theorem emitFile_run (log : Record → StateM World Unit) (o : OutputSettings) (path : Path)
    (content : Bytes) (w : World) :
    (emitFile log o path content).run w =
      if o.dryRun then
        (.ok .printed, { w with output := w.output ++ Text.encode (heading path) ++ content })
      else
        match w.tree.holds? path content with
        | .error reason => (.error ⟨path, reason⟩, w)
        | .ok true =>
          (.ok .unchanged, if o.check then w else ((log (unchangedRecord path)).run w).2)
        | .ok false =>
          if o.check then (.ok .stale, ((log (staleRecord path)).run w).2)
          else
            match (writeFile path content : Action Unit).run w with
            | (.ok (), u) => (.ok .written, ((log (writtenRecord path content)).run u).2)
            | (.error failure, u) => (.error failure, u) := by
  obtain ⟨base, dryRun, check⟩ := o
  cases dryRun with
  | true => rfl
  | false =>
    unfold emitFile
    rw [if_neg Bool.false_ne_true, if_neg Bool.false_ne_true, run_bind, isUpToDate_run]
    cases w.tree.holds? path content with
    | error reason => rfl
    | ok held =>
      cases check <;> cases held
      · change ((writeFile path content : Action Unit) >>= fun _ => _).run w = _
        rw [run_bind]
        rcases (writeFile path content : Action Unit).run w with ⟨result, u⟩
        cases result <;> rfl
      · rfl
      · rfl
      · rfl

/-! ## By settings -/

/-- What becomes of a file that is checked, by whether it holds its content. -/
def checked (held : Bool) : Outcome :=
  if held then .unchanged else .stale

/-- What becomes of a file that is written, by whether it held its content. -/
def rewritten (held : Bool) : Outcome :=
  if held then .unchanged else .written

theorem emitFile_of_holds (hlog : ∀ record, LeavesFiles (log record)) (hdry : o.dryRun = false)
    (hholds : w.tree.holds? path content = .ok true) :
    ∃ w', (emitFile log o path content).run w = (.ok .unchanged, w') ∧ w'.tree = w.tree := by
  rw [emitFile_run, hdry, hholds]
  refine ⟨_, rfl, ?_⟩
  split_ifs
  · rfl
  · exact (hlog _ w).symm

theorem emitFile_check (hlog : ∀ record, LeavesFiles (log record)) (hdry : o.dryRun = false)
    (hcheck : o.check = true) {held : Bool} (hholds : w.tree.holds? path content = .ok held) :
    ∃ w', (emitFile log o path content).run w = (.ok (checked held), w') ∧ w'.tree = w.tree := by
  cases held with
  | true => exact emitFile_of_holds hlog hdry hholds
  | false =>
    rw [emitFile_run, hdry, hcheck, hholds]
    exact ⟨_, rfl, (hlog _ w).symm⟩

theorem emitFile_write_ok (hlog : ∀ record, LeavesFiles (log record)) (hdry : o.dryRun = false)
    (hcheck : o.check = false) (h : (emitFile log o path content).run w = (.ok outcome, w')) :
    (∃ held, w.tree.holds? path content = .ok held ∧ outcome = rewritten held) ∧
      FileTree.Grows [w.tree.target path] w.tree w'.tree ∧
      w'.tree.read path = .ok content := by
  cases hholds : w.tree.holds? path content with
  | error reason =>
    rw [emitFile_run, hdry, hholds] at h
    cases (Prod.mk.inj h).1
  | ok held =>
    cases held with
    | true =>
      obtain ⟨u, hrun, htree⟩ := emitFile_of_holds hlog hdry hholds
      obtain ⟨houtcome, rfl⟩ := Prod.mk.inj (hrun.symm.trans h)
      rw [htree]
      exact ⟨⟨true, rfl, (Except.ok.inj houtcome).symm⟩, .refl _ _,
        FileTree.holds?_eq_true_iff.mp hholds⟩
    | false =>
      rw [emitFile_run, hdry, hcheck, hholds] at h
      cases hwrite : (writeFile path content : Action Unit).run w with
      | mk result u =>
        cases result with
        | error failure =>
          simp only [hwrite] at h
          cases (Prod.mk.inj h).1
        | ok _ =>
          simp only [hwrite] at h
          obtain ⟨houtcome, rfl⟩ := Prod.mk.inj h
          have htree : ((log (writtenRecord path content)).run u).2.tree = u.tree := (hlog _ u).symm
          rw [htree]
          exact ⟨⟨false, rfl, (Except.ok.inj houtcome).symm⟩, writeFile_ok hwrite⟩

/-! ## Whatever becomes of the files -/

section Changes

variable {R : FileTree → FileTree → Prop} (hrefl : ∀ t, R t t)
  (htrans : ∀ {t u v}, R t u → R u v → R t v)

include hrefl htrans

/-- What a write brings about: it makes directories that its path lies in, and modifies one file. -/
theorem changes_writeFile {P : Path → Prop}
    (hmake : ∀ {t u : FileTree} {p}, P p → t.makeDirectory p = .ok u → R t u)
    (hparent : ∀ {p parent : Path}, P p → p.parent = some parent → P parent) (hpath : P path)
    (hmodify : ∀ {t u : FileTree} {change}, t.modify path change = .ok u → R t u)
    (content : Bytes) : Changes R (writeFile path content : Action Unit).run := by
  have hwrite : Changes R
      (onPath path (Disk.write path content) : Action Unit).run :=
    fun w => changes_request hrefl path content (fun stored t => t.modify path fun _ => stored)
      hmodify w
  unfold writeFile
  split
  · next parent hparentOf =>
    split_ifs
    · exact hwrite
    · have hparents : Changes R (Disk.makeDirectories parent : StateM World _) :=
        changes_makeDirectories hrefl htrans hmake hparent (hparent hpath hparentOf)
      exact Changes.bind_run (fun w => hparents w) (fun _ => hwrite) htrans
  · exact hwrite

variable (hmake : ∀ {t u : FileTree} {p}, t.makeDirectory p = .ok u → R t u)
  (hmodify : ∀ {t u : FileTree} {p change}, t.modify p change = .ok u → R t u)
  (hlog : ∀ record, LeavesFiles (log record))

include hmake hmodify hlog

theorem changes_emitFile (o : OutputSettings) (path : Path) (content : Bytes) :
    Changes R (emitFile log o path content).run := by
  have hrecord : ∀ record, Changes R (log record) := fun record => (hlog record).changes hrefl
  intro w
  change R w.tree ((emitFile log o path content).run w).2.tree
  rw [emitFile_run]
  by_cases hdry : o.dryRun = true
  · rw [if_pos hdry]
    exact hrefl w.tree
  · rw [if_neg hdry]
    cases w.tree.holds? path content with
    | error reason => exact hrefl w.tree
    | ok held =>
      cases held with
      | true =>
        dsimp only
        split_ifs
        · exact hrefl w.tree
        · exact hrecord _ w
      | false =>
        dsimp only
        split_ifs
        · exact hrecord _ w
        · have hwrite : R w.tree ((writeFile path content : Action Unit).run w).2.tree :=
            changes_writeFile (P := fun _ => True) hrefl htrans (fun _ => hmake)
              (fun _ _ => trivial) trivial hmodify content w
          revert hwrite
          rcases (writeFile path content : Action Unit).run w with ⟨result, u⟩
          cases result with
          | error failure => exact id
          | ok _ => exact fun hwrite => htrans hwrite (hrecord _ u)

/-- A relation that making a directory and writing a file bring about holds between the files before
and after any emission, whether it succeeds or not. -/
theorem changes_emitFrom (o : OutputSettings) (r : Report) (files : GeneratedFiles) :
    Changes R (emitFrom log o r files).run := by
  induction files generalizing r with
  | nil => exact fun w => hrefl w.tree
  | cons entry files ih =>
    exact Changes.bind_run (changes_emitFile hrefl htrans hmake hmodify hlog o _ _)
      (fun outcome => ih _) htrans

end Changes

end Emission

end Registrar
