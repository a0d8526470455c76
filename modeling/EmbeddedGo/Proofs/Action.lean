/-
EmbeddedGo.Proofs.Action — how actions run: on a host, in a session, in a server.

All of them are one monad over different states: what was changed before a failure stays changed.
`run_bind` cuts a run into its parts, and the other lemmas say what each part does, so that no proof
about an action opens the monad.

  §1 the monad
  §2 what a run does to the state, whatever it comes to
  §3 actions on files
  §4 actions in a session
-/
import EmbeddedGo.Session

namespace EmbeddedGo

/-! ## §1 The monad -/

section Monad

variable {ε σ α β : Type}

theorem run_bind (x : ExceptT ε (StateM σ) α) (f : α → ExceptT ε (StateM σ) β) (s : σ) :
    (x >>= f).run.run s =
      match x.run.run s with
      | (.ok a, s') => (f a).run.run s'
      | (.error e, s') => (.error e, s') := by
  simp only [bind, ExceptT.bind, ExceptT.run, ExceptT.mk, StateT.run, StateT.bind]
  rcases (x s : Except ε α × σ) with ⟨a | a, s'⟩ <;> rfl

/-- A run that succeeds has parts that succeed. -/
theorem run_bind_ok {x : ExceptT ε (StateM σ) α} {f : α → ExceptT ε (StateM σ) β} {s s' : σ}
    {b : β} (h : (x >>= f).run.run s = (.ok b, s')) :
    ∃ a s₁, x.run.run s = (.ok a, s₁) ∧ (f a).run.run s₁ = (.ok b, s') := by
  rw [run_bind] at h
  split at h
  · next a s₁ hx => exact ⟨a, s₁, hx, h⟩
  · cases h

theorem run_pure (a : α) (s : σ) :
    (pure a : ExceptT ε (StateM σ) α).run.run s = (.ok a, s) := rfl

theorem run_get (s : σ) : (get : ExceptT ε (StateM σ) σ).run.run s = (.ok s, s) := rfl

theorem run_tryCatch (x : ExceptT ε (StateM σ) α) (f : ε → ExceptT ε (StateM σ) α) (s : σ) :
    (tryCatch x f).run.run s =
      match x.run.run s with
      | (.ok a, s') => (.ok a, s')
      | (.error e, s') => (f e).run.run s' := by
  simp only [tryCatch, tryCatchThe, MonadExceptOf.tryCatch, ExceptT.tryCatch, ExceptT.run,
    ExceptT.mk, StateT.run, bind, StateT.bind]
  rcases (x s : Except ε α × σ) with ⟨a | a, s'⟩ <;> rfl

end Monad

/-! ## §2 Effects -/

/-- A relation between a state and a later one, however many steps lie between them. -/
class Lasting {σ : Type} (related : σ → σ → Prop) : Prop where
  refl : ∀ s, related s s
  trans : ∀ {a b c}, related a b → related b c → related a c

/-- Every run leads from a state to one that is in a relation to it, whether it fails or not. -/
def Stays {ε σ α : Type} (related : σ → σ → Prop) (x : ExceptT ε (StateM σ) α) : Prop :=
  ∀ s, related s (x.run.run s).2

namespace Stays

variable {ε σ α β : Type} {related : σ → σ → Prop}

theorem of_run {x : ExceptT ε (StateM σ) α} (hx : Stays related x) {s s' : σ} {r : Except ε α}
    (h : x.run.run s = (r, s')) : related s s' := by
  have hs := hx s
  rwa [h] at hs

variable [Lasting related]

theorem bind_of_run {x : ExceptT ε (StateM σ) α} {f : α → ExceptT ε (StateM σ) β}
    (hx : Stays related x)
    (hf : ∀ s a s', x.run.run s = (.ok a, s') → related s' ((f a).run.run s').2) :
    Stays related (x >>= f) := by
  intro s
  have hs := hx s
  rw [run_bind]
  match hrun : x.run.run s with
  | (.ok a, s') => exact Lasting.trans (by rwa [hrun] at hs) (hf s a s' hrun)
  | (.error e, s') => rwa [hrun] at hs

theorem bind {x : ExceptT ε (StateM σ) α} {f : α → ExceptT ε (StateM σ) β}
    (hx : Stays related x) (hf : ∀ a, Stays related (f a)) : Stays related (x >>= f) :=
  hx.bind_of_run fun _ a s' _ => hf a s'

theorem tryCatch {x : ExceptT ε (StateM σ) α} {f : ε → ExceptT ε (StateM σ) α}
    (hx : Stays related x) (hf : ∀ e, Stays related (f e)) :
    Stays related (MonadExcept.tryCatch x f) := by
  intro s
  have hs := hx s
  show related s ((MonadExcept.tryCatch x f).run.run s).2
  rw [run_tryCatch]
  match hrun : x.run.run s with
  | (.ok a, s') => rwa [hrun] at hs
  | (.error e, s') => exact Lasting.trans (by rwa [hrun] at hs) (hf e s')

theorem pure (a : α) : Stays related (Pure.pure a : ExceptT ε (StateM σ) α) := Lasting.refl

theorem throw (e : ε) : Stays related (MonadExcept.throw e : ExceptT ε (StateM σ) α) :=
  Lasting.refl

theorem get : Stays related (MonadState.get : ExceptT ε (StateM σ) σ) := Lasting.refl

end Stays

/-! ## §3 Files -/

namespace Host

variable {α : Type}

theorem run_look (f : FileTree → Except Fault α) (h : Host) :
    (look f).run.run h =
      match f h.files with
      | .ok a => (.ok a, h)
      | .error e => (.error (.fault e), h) := by
  rw [look, run_bind, run_get]
  dsimp only
  cases f h.files <;> rfl

theorem run_inspect (f : FileTree → Except Error α) (h : Host) :
    (inspect f).run.run h = (f h.files, h) := by
  rw [inspect, run_bind, run_get]
  dsimp only
  cases f h.files <;> rfl

theorem run_change (f : FileTree → Except Fault FileTree) (h : Host) :
    (change f).run.run h =
      match f h.files with
      | .ok files => (.ok (), { h with files })
      | .error e => (.error (.fault e), h) := by
  rw [change, run_bind, run_get]
  dsimp only
  cases f h.files <;> rfl

theorem run_removeTree (p : Path) (h : Host) :
    (removeTree p).run.run h =
      match h.files.removeTree p with
      | .error e => (.error (.fault e), h)
      | .ok (true, files) => (.ok (), { h with files })
      | .ok (false, files) => (.error tooDeep, { h with files }) := by
  rw [removeTree, run_bind, run_get]
  dsimp only
  rcases h.files.removeTree p with e | ⟨_ | _, files⟩ <;> rfl

theorem run_makePath (p : Path) (h : Host) :
    (makePath p).run.run h =
      match h.files.makePath p with
      | (.ok (), files) => (.ok (), { h with files })
      | (.error e, files) => (.error (.fault e), { h with files }) := by
  rw [makePath, run_bind, run_get]
  dsimp only
  rcases h.files.makePath p with ⟨e | u, files⟩ <;> rfl

theorem run_readText (p : Path) (h : Host) :
    (readText p).run.run h =
      match h.files.read p with
      | .error e => (.error (.fault e), h)
      | .ok content =>
        match Utf8.decode? content with
        | some s => (.ok (Text.unifyBreaks s), h)
        | none => (.error .notText, h) := by
  rw [readText, run_bind, readBytes, run_look]
  cases h.files.read p with
  | error e => rfl
  | ok content =>
    dsimp only
    cases Utf8.decode? content <;> rfl

/-- A file with a text is read with one kind of line end. -/
theorem run_readText_of_decode {p : Path} {h : Host} {content : Bytes} {s : Text}
    (hread : h.files.read p = .ok content) (hdecode : Utf8.decode? content = some s) :
    (readText p).run.run h = (.ok (Text.unifyBreaks s), h) := by
  rw [run_readText, hread]
  dsimp only
  rw [hdecode]

theorem host_readText (p : Path) (h : Host) : ((readText p).run.run h).2 = h := by
  rw [run_readText]
  split
  · rfl
  · split <;> rfl

end Host

/-! ## §4 Sessions -/

namespace Session

theorem run_act {α : Type} (f : Action α) (s : Session) :
    (act f).run.run s = ((f.run.run s.host).1, { s with host := (f.run.run s.host).2 }) := rfl

/-- The glue is the text of its file below the directory that the compiler names. -/
theorem run_readGlue {c : Compiler} {root : Path} {content : Bytes} {glue : Text} {h h' : Host}
    (hroot : c.root.run.run h = (.ok root, h')) (hread : h'.files.read (gluePath root) = .ok content)
    (hdecode : Utf8.decode? content = some glue) :
    (readGlue c).run.run h = (.ok (Text.unifyBreaks glue), h') := by
  rw [readGlue, run_bind, run_tryCatch, hroot]
  dsimp only
  rw [run_tryCatch, Host.run_readText_of_decode hread hdecode]

end Session
end EmbeddedGo
