/-
EmbeddedGo.Proofs.GlueSource — where the glue comes from.

The glue is read from a file below the directory that the compiler names. So all that counts for it is
what the compiler answers when it is asked for that directory, and the file (`readGlue_congr`). Reading
the glue, or an artifact, changes neither, so whoever reads it next comes to the same (`readGlue_alike`).

  §1 runs that come to the same
  §2 what counts when the glue is read
  §3 what reading leaves as it is
-/
import EmbeddedGo.Proofs.CompilerFailures
import EmbeddedGo.Proofs.Frame

namespace EmbeddedGo

/-! ## §1 Outcomes -/

section Outcomes

variable {ε σ α β : Type} {x : ExceptT ε (StateM σ) α} {s s' : σ}

/-- Two runs that come to the same at first come to the same if what follows does. -/
theorem fst_run_bind_congr {f : α → ExceptT ε (StateM σ) β} (hx : (x.run.run s).1 = (x.run.run s').1)
    (hf : ∀ a, (x.run.run s).1 = .ok a →
      ((f a).run.run (x.run.run s).2).1 = ((f a).run.run (x.run.run s').2).1) :
    ((x >>= f).run.run s).1 = ((x >>= f).run.run s').1 := by
  rw [run_bind, run_bind]
  rcases hrun : x.run.run s with ⟨r, t⟩
  rcases hrun' : x.run.run s' with ⟨r', t'⟩
  rw [hrun, hrun'] at hx hf
  obtain rfl : r = r' := hx
  cases r with
  | error e => rfl
  | ok a => exact hf a rfl

theorem fst_run_tryCatch_congr {f : ε → ExceptT ε (StateM σ) α}
    (hx : (x.run.run s).1 = (x.run.run s').1)
    (hf : ∀ e t t', ((f e).run.run t).1 = ((f e).run.run t').1) :
    ((tryCatch x f).run.run s).1 = ((tryCatch x f).run.run s').1 := by
  rw [run_tryCatch, run_tryCatch]
  rcases hrun : x.run.run s with ⟨r, t⟩
  rcases hrun' : x.run.run s' with ⟨r', t'⟩
  rw [hrun, hrun'] at hx
  obtain rfl : r = r' := hx
  cases r with
  | error e => exact hf e t t'
  | ok a => rfl

end Outcomes

/-! ## §2 The source -/

namespace Session

variable {c : Compiler} {h h' : Host}

/-- A run of the compiler that asks for its directory comes to the same, and there stands the same file of
glue. -/
structure SameGlueSource (c : Compiler) (h h' : Host) : Prop where
  run : h.outcome c.command ["env", "TINYGOROOT"] = h'.outcome c.command ["env", "TINYGOROOT"]
  file : ∀ root, (c.root.run.run h).1 = .ok root →
    h.files.read (gluePath root) = h'.files.read (gluePath root)

theorem readText_congr {p : Path} (hread : h.files.read p = h'.files.read p) :
    ((Host.readText p).run.run h).1 = ((Host.readText p).run.run h').1 := by
  rw [Host.readText, run_bind, run_bind, Host.readBytes, Host.run_look, Host.run_look, hread]
  cases h'.files.read p with
  | error e => rfl
  | ok content =>
    dsimp only
    cases Utf8.decode? content <;> rfl

/-- The compiler is asked for its directory, and a failure is told in another way. -/
theorem SameGlueSource.asked (hsame : SameGlueSource c h h') {g : Error → Action Path}
    (hg : ∀ e, ∃ e', ∀ h, (g e).run.run h = (.error e', h)) :
    ((tryCatch c.root g).run.run h).1 = ((tryCatch c.root g).run.run h').1 ∧
      ∀ root, ((tryCatch c.root g).run.run h).1 = .ok root →
        ((tryCatch c.root g).run.run h).2.files.read (gluePath root) =
          ((tryCatch c.root g).run.run h').2.files.read (gluePath root) := by
  have hroot : (c.root.run.run h).1 = (c.root.run.run h').1 := by
    rw [Compiler.fst_root, Compiler.fst_root, hsame.run]
  have hlooks : Stays Host.SameFiles (tryCatch c.root g) := .tryCatch c.looks_root fun e h => by
    obtain ⟨e', he⟩ := hg e
    rw [he]
    rfl
  refine ⟨fst_run_tryCatch_congr hroot fun e t t' => ?_, fun root hok => ?_⟩
  · obtain ⟨e', he⟩ := hg e
    rw [he, he]
  · rw [show _ = h.files from hlooks h, show _ = h'.files from hlooks h']
    refine hsame.file root ?_
    rw [run_tryCatch] at hok
    split at hok
    · next hrun => rw [hrun, hok]
    · next e t hrun =>
      obtain ⟨e', he⟩ := hg e
      rw [he] at hok
      cases hok

/-- Nothing else counts when the glue is read. -/
theorem readGlue_congr (hsame : SameGlueSource c h h') :
    ((readGlue c).run.run h).1 = ((readGlue c).run.run h').1 := by
  unfold readGlue
  refine fst_run_bind_congr (hsame.asked ?hg).1 fun root hok =>
    fst_run_tryCatch_congr (readText_congr ((hsame.asked ?hg).2 root hok)) fun e _ _ => by split <;> rfl
  intro e
  split <;> exact ⟨_, fun _ => rfl⟩

theorem readGlue_alike (hsame : h.Alike h') :
    ((readGlue c).run.run h').1 = ((readGlue c).run.run h).1 :=
  (readGlue_congr
    { run := (hsame.outcome_eq _ _).symm
      file := fun _ _ => by rw [hsame.files] }).symm

end Session

/-! ## §3 Reading -/

namespace Host

instance : Lasting Alike :=
  ⟨.refl, fun hab hbc => ⟨hbc.files.trans hab.files, hbc.toolchain.trans hab.toolchain,
    hbc.searched.trans hab.searched⟩⟩

theorem alike_look {α : Type} (f : FileTree → Except Fault α) : Stays Alike (look f) := by
  intro h
  rw [run_look]
  cases f h.files <;> exact .refl h

theorem alike_readText (p : Path) : Stays Alike (readText p) := by
  intro h
  rw [host_readText]
  exact .refl h

end Host

namespace Compiler

variable (c : Compiler)

theorem alike_root : Stays Host.Alike c.root := by
  have hrun : Stays Host.Alike (c.run ["env", "TINYGOROOT"]) := by
    intro h
    refine ⟨c.looks_run (by decide) h, (c.sameTools_run _ h).2, ?_⟩
    rw [c.run_run]
    split <;> rfl
  refine .bind hrun fun a => ?_
  split
  · exact .pure _
  · exact .throw _

end Compiler

namespace Session

theorem alike_readGlue (c : Compiler) : Stays Host.Alike (readGlue c) := by
  refine .bind (.tryCatch c.alike_root fun e => ?_) fun root => ?_
  · split
    · exact .throw _
    · exact .throw _
  · refine .tryCatch (Host.alike_readText _) fun e => ?_
    split
    · exact .throw _
    · exact .throw _
    · exact .throw _

theorem alike_readArtifact (buildRoot : Path) (id : Text) :
    Stays Host.Alike (readArtifact buildRoot id) := by
  have hpath : Stays Host.Alike (artifactPath buildRoot id) := by
    unfold artifactPath
    split
    · refine .bind (Host.alike_look _) fun found => ?_
      split
      · exact .pure _
      · exact .throw _
    · exact .throw _
  refine .bind hpath fun p => .tryCatch (Host.alike_look _) fun e => ?_
  split
  · exact .throw _
  · exact .throw _

end Session
end EmbeddedGo
