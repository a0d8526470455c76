/-
EmbeddedGo.Proofs.Doing — how the parts of a command run.

A command looks at files, shows lines, and works in a session. Only what works in the session can
change it; looking and showing leave it as it is (`Quiet`), though both can end the command. So what a
command does to the files is found by passing over its quiet parts one by one (`run_bind_quiet`).

  §1 what leaves the session
  §2 the parts of a command
-/
import EmbeddedGo.Command.Run
import EmbeddedGo.Proofs.Action

namespace EmbeddedGo.Command

variable {α β : Type}

/-! ## §1 Quiet parts -/

/-- The session is the same. -/
def SameSession (d d' : Progress) : Prop := d'.session = d.session

instance : Lasting SameSession := ⟨fun _ => rfl, fun hab hbc => hbc.trans hab⟩

/-- Every run leaves the session as it is, whether it fails or not. -/
abbrev Quiet (x : Doing α) : Prop := Stays SameSession x

theorem session_of_run {x : Doing α} (hx : Quiet x) {d d' : Progress} {r : Except Stop α}
    (h : x.run.run d = (r, d')) : d'.session = d.session := hx.of_run h

/-- A quiet part ends the command, or what follows it starts from the same session. -/
theorem run_bind_quiet {x : Doing α} (hx : Quiet x) (f : α → Doing β) (d : Progress) :
    (∃ stop d', (x >>= f).run.run d = (.error stop, d') ∧ SameSession d d') ∨
      ∃ a d', x.run.run d = (.ok a, d') ∧ SameSession d d' ∧
        (x >>= f).run.run d = (f a).run.run d' := by
  have hd := hx d
  rw [run_bind]
  match hrun : x.run.run d with
  | (.ok a, d') =>
    rw [hrun] at hd
    exact .inr ⟨a, d', rfl, hd, rfl⟩
  | (.error stop, d') =>
    rw [hrun] at hd
    exact .inl ⟨stop, d', rfl, hd⟩

/-- Quiet parts at the end of a command leave its session. -/
theorem session_bind_quiet {x : Doing α} {f : α → Doing β} (hf : ∀ a, Quiet (f a)) (d : Progress) :
    ((x >>= f).run.run d).2.session = (x.run.run d).2.session := by
  rw [run_bind]
  match x.run.run d with
  | (.ok a, d') => exact hf a d'
  | (.error stop, d') => rfl

theorem quiet_rendered (markup : Text) : Quiet (rendered markup) := by
  unfold rendered
  split
  · exact .pure _
  · exact .throw _

theorem quiet_put (shown : Console.Shown) : Quiet (put shown) := fun _ => rfl

theorem quiet_say (markup : Text) : Quiet (say markup) :=
  .bind (quiet_rendered markup) fun s => quiet_put (.text s)

/-! ## §2 Parts -/

theorem run_ask (f : FileTree → Except Error α) (d : Progress) :
    (ask f).run.run d =
      match f d.session.host.files with
      | .ok a => (.ok a, d)
      | .error e => (.error (.crash (.error e)), d) := by
  rw [ask, run_bind, run_get]
  dsimp only
  cases f d.session.host.files <;> rfl

theorem quiet_ask (f : FileTree → Except Error α) : Quiet (ask f) := by
  intro d
  rw [run_ask]
  cases f d.session.host.files <;> rfl

theorem of_run_ask {f : FileTree → Except Error α} {d d' : Progress} {a : α}
    (h : (ask f).run.run d = (.ok a, d')) : f d.session.host.files = .ok a ∧ d' = d := by
  rw [run_ask] at h
  split at h
  · next hf =>
    cases h
    exact ⟨hf, rfl⟩
  · cases h

theorem run_attempt (f : Step α) (d : Progress) :
    (attempt f).run.run d =
      (.ok (f.run.run d.session).1, { d with session := (f.run.run d.session).2 }) := rfl

theorem run_sure (f : Step α) (d : Progress) :
    (sure f).run.run d =
      match f.run.run d.session with
      | (.ok a, session) => (.ok a, { d with session })
      | (.error e, session) => (.error (.crash (.error e)), { d with session }) := by
  rw [sure, run_bind, run_attempt]
  dsimp only
  rcases f.run.run d.session with ⟨e | a, session⟩ <;> rfl

/-- An action on the host changes nothing else. -/
theorem run_act (f : Action α) (d : Progress) :
    (act f).run.run d =
      match f.run.run d.session.host with
      | (.ok a, host) => (.ok a, { d with session := { d.session with host } })
      | (.error e, host) =>
        (.error (.crash (.error e)), { d with session := { d.session with host } }) := by
  rw [act, run_sure, Session.run_act]
  rcases f.run.run d.session.host with ⟨e | a, host⟩ <;> rfl

theorem session_act (f : Action α) (d : Progress) :
    ((act f).run.run d).2.session = { d.session with host := (f.run.run d.session.host).2 } := by
  rw [run_act]
  rcases f.run.run d.session.host with ⟨e | a, host⟩ <;> rfl

theorem of_run_act {f : Action α} {d d' : Progress} {a : α}
    (h : (act f).run.run d = (.ok a, d')) :
    ∃ host, f.run.run d.session.host = (.ok a, host) ∧
      d' = { d with session := { d.session with host } } := by
  rw [run_act] at h
  split at h
  · next host hf =>
    cases h
    exact ⟨host, hf, rfl⟩
  · cases h

theorem quiet_options (c : Common) (root : Path) : Quiet (options c root) := by
  refine .bind .get fun d => ?_
  split
  · exact .pure _
  · split
    · exact .bind (quiet_say _) fun _ => .throw _
    · exact .throw _

theorem run_options {c : Common} {root : Path} {d : Progress} {o : Options}
    (h : Config.load d.session.host.files (c.config.map Path.ofText) root = .ok o) :
    (options c root).run.run d = (.ok o, d) := by
  rw [options, run_bind, run_get]
  dsimp only
  rw [h]
  rfl

/-- The options are those of the configuration. -/
theorem load_of_options {c : Common} {root : Path} {d d' : Progress} {o : Options}
    (h : (options c root).run.run d = (.ok o, d')) :
    Config.load d.session.host.files (c.config.map Path.ofText) root = .ok o := by
  rw [options, run_bind, run_get] at h
  dsimp only at h
  split at h
  · next o' hload =>
    cases h
    exact hload
  · split at h
    · obtain ⟨_, _, -, h⟩ := run_bind_ok h
      cases h
    · cases h

end EmbeddedGo.Command
