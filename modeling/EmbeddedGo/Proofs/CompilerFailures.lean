/-
EmbeddedGo.Proofs.CompilerFailures — how questions to the compiler, and builds with it, can fail.

All of them are one run of a program, and such a run comes to an answer or to a refusal to start it
(`Host.outcome`). What an operation makes of either is an equation for each of them. Together they
say that no failure is left that is not one of the library, but for one (`operation_failures`): a
word with a character that no word of a command can hold is refused before there is any program, and
that refusal goes through (`isInstalled_fails`).

  §1 refusals to start a program
  §2 what a run comes to
  §3 the operations
  §4 all failures
-/
import EmbeddedGo.Proofs.SlotFiles

namespace EmbeddedGo

/-! ## §1 Starting -/

namespace FileTree

/-- A walk never gets to a character that no path can hold: that is looked for before it begins. -/
theorem walk_ne_nulCharacter (t : FileTree) (follow : Bool) (links : Nat) (names : List Text)
    (here : Place) : t.walk follow links names here ≠ .error .nulCharacter := by
  fun_induction walk t follow links names here with
  | case2 _ _ _ ih => exact ih
  | case3 _ _ _ _ ih => exact ih
  | case7 _ _ _ _ _ _ _ _ _ ih => exact ih
  | case12 _ _ _ _ _ _ _ _ _ _ _ ih => exact ih
  | _ => simp

theorem locateWord_ne_nulCharacter (t : FileTree) {word : Text} (hword : '\x00' ∉ word) :
    t.locateWord word ≠ .error .nulCharacter := by
  rw [locateWord, if_neg (by simpa using hword)]
  split
  · simp
  · split
    · simp
    · exact walk_ne_nulCharacter t true linkLimit _ _

end FileTree

namespace Host

/-- The directories in which commands are looked up have names that the environment of a process can
hold. -/
def IsSearchable (h : Host) : Prop := ∀ directory ∈ h.searched, '\x00' ∉ directory.text

variable {h h' : Host} {command : Text}

theorem startAt_ne_nulCharacter {word : Text} (hword : '\x00' ∉ word) :
    h.startAt word ≠ .error .nulCharacter := by
  have hlocate := h.files.locateWord_ne_nulCharacter hword
  unfold startAt
  split
  · next e he => exact fun heq => hlocate (he.trans (Except.error.inj heq ▸ rfl))
  · simp
  · split
    · simp
    · split <;> simp

theorem startFirst_ne_nulCharacter {words : List Text} (hwords : ∀ word ∈ words, '\x00' ∉ word)
    {last : Refusal} (hlast : last ≠ .nulCharacter) :
    h.startFirst last words ≠ .error .nulCharacter := by
  induction words generalizing last with
  | nil => simpa [startFirst] using hlast
  | cons word words ih =>
    have hword := hwords word (List.mem_cons_self ..)
    have hstart : h.startAt word ≠ .error .nulCharacter := startAt_ne_nulCharacter hword
    have hrest : ∀ e, e ≠ .nulCharacter → h.startFirst e words ≠ .error .nulCharacter :=
      fun e he => ih (fun w hw => hwords w (List.mem_cons_of_mem _ hw)) he
    rw [startFirst]
    split
    · simp
    · next e he =>
      have hne : e ≠ .nulCharacter := fun heq => hstart (heq ▸ he)
      split
      · simp
      · next f hf =>
        -- of two refusals one is kept, and neither of them is this one
        have hf' : f ≠ .nulCharacter := fun heq => hrest e hne (heq ▸ hf)
        split
        · exact fun heq => hf' (Except.error.inj heq)
        · exact fun heq => hlast (Except.error.inj heq)

/-- A command is refused for such a character exactly if one of its words holds one. -/
theorem start?_eq_nulCharacter_iff (hs : h.IsSearchable) (args : List Text) :
    h.start? command args = .error .nulCharacter ↔ ∃ word ∈ command :: args, '\x00' ∈ word := by
  rw [start?]
  by_cases hnul : ∃ word ∈ command :: args, '\x00' ∈ word
  · rw [if_pos (by simpa using hnul)]
    exact iff_of_true rfl hnul
  · rw [if_neg (by simpa using hnul)]
    refine iff_of_false (startFirst_ne_nulCharacter (fun word hword => ?_) (by simp)) hnul
    have hcommand : '\x00' ∉ command := fun hin => hnul ⟨command, by simp, hin⟩
    unfold candidates at hword
    split at hword
    · exact List.mem_singleton.1 hword ▸ hcommand
    · obtain ⟨directory, hdirectory, rfl⟩ := List.mem_map.1 hword
      have hslash : '\x00' ∉ ("/" : Text) := by decide
      rw [List.mem_append, List.mem_append]
      rintro ((hin | hin) | hin)
      · exact hs directory hdirectory hin
      · exact hslash hin
      · exact hcommand hin

/-! ## §2 Outcomes -/

/-- What running a command comes to: an answer, or why no program could be started. -/
def outcome (h : Host) (command : Text) (args : List Text) : Except Refusal Answer :=
  (h.start? command args).map fun program => (h.ran program args).1

/-- The files, the compiler and the way to it are the same, whatever was run before. -/
structure Alike (h h' : Host) : Prop where
  files : h'.files = h.files
  toolchain : h'.toolchain = h.toolchain
  searched : h'.searched = h.searched

theorem Alike.refl (h : Host) : Alike h h := ⟨rfl, rfl, rfl⟩

/-- What a run comes to does not depend on what was run before. -/
theorem Alike.outcome_eq (hsame : Alike h h') (command : Text) (args : List Text) :
    h'.outcome command args = h.outcome command args := by
  have hran : ∀ program, (h'.ran program args).1 = (h.ran program args).1 := by
    intro program
    simp only [ran, sourceOf, writeOutput, hsame.files, hsame.toolchain]
  rw [outcome, outcome, Transform.start?_congr hsame.files hsame.toolchain hsame.searched]
  simp only [hran]

theorem outcome_eq_nulCharacter_iff (hs : h.IsSearchable) (args : List Text) :
    h.outcome command args = .error .nulCharacter ↔ ∃ word ∈ command :: args, '\x00' ∈ word := by
  rw [← start?_eq_nulCharacter_iff hs, outcome]
  cases h.start? command args <;> simp [Except.map]

end Host

/-! ## §3 Operations -/

namespace Compiler

open Host

variable (c : Compiler) (h : Host)

/-- The refusal of a word that holds a character no word can hold. -/
def nulFault : Error := .fault { refusal := .nulCharacter, path := c.command }

/-- The error for a program that is refused. -/
def refused (refusal : Refusal) : Error :=
  .toolchainNotFound c.command (some (Fault.message { refusal, path := c.command }))

/-- What an operation makes of the outcome of its run before it looks at the answer. -/
def translated : Except Refusal Answer → Except Error Answer
  | .error .nulCharacter => .error c.nulFault
  | .error refusal => .error (c.refused refusal)
  | .ok a => .ok a

variable {c} in
theorem translated_eq_error_iff {outcome : Except Refusal Answer} {e : Error} :
    c.translated outcome = .error e ↔
      outcome = .error .nulCharacter ∧ e = c.nulFault ∨
        ∃ refusal, outcome = .error refusal ∧ refusal ≠ .nulCharacter ∧ e = c.refused refusal := by
  match outcome with
  | .ok a => simp [translated]
  | .error refusal => cases refusal <;> simp [translated, eq_comm]

variable {c} in
theorem translated_eq_ok_iff {outcome : Except Refusal Answer} {a : Answer} :
    c.translated outcome = .ok a ↔ outcome = .ok a := by
  match outcome with
  | .ok a => simp [translated]
  | .error refusal => cases refusal <;> simp [translated]

theorem fst_run (args : List Text) :
    ((c.run args).run.run h).1 = c.translated (h.outcome c.command args) := by
  rw [c.run_run, outcome]
  match h.start? c.command args with
  | .ok program => rfl
  | .error refusal => cases refusal <;> rfl

/-- What follows a run is done with its answer. -/
theorem fst_run_bind {α : Type} (args : List Text) {f : Answer → Action α}
    {g : Answer → Except Error α} (hf : ∀ a h, ((f a).run.run h).1 = g a) :
    ((c.run args >>= f).run.run h).1 = (c.translated (h.outcome c.command args)).bind g := by
  rw [← c.fst_run h args, run_bind]
  rcases (c.run args).run.run h with ⟨e | a, h'⟩
  · rfl
  · exact hf a h'

theorem fst_version :
    (c.version.run.run h).1 =
      (c.translated (h.outcome c.command ["version"])).bind fun a =>
        if a.succeeded then .ok (Text.trim (printed a.stdout))
        else .error (.toolchainNotFound c.command (said? a.stderr)) := by
  refine c.fst_run_bind h _ fun a h => ?_
  split <;> rfl

theorem fst_root :
    (c.root.run.run h).1 =
      (c.translated (h.outcome c.command ["env", "TINYGOROOT"])).bind fun a =>
        match a.succeeded, said? a.stdout with
        | true, some root => .ok (Path.ofText root)
        | _, _ => .error (.toolchainNotFound c.command
            (some ((said? a.stderr).getD "TINYGOROOT is not set"))) := by
  refine c.fst_run_bind h _ fun a h => ?_
  cases a.succeeded <;> cases said? a.stdout <;> rfl

theorem fst_compile (goFile wasmFile : Text) :
    ((c.compile goFile wasmFile).run.run h).1 =
      (c.translated (h.outcome c.command (c.buildWords goFile wasmFile))).bind fun a =>
        if a.succeeded then .ok (said? a.stderr).toList else .error (.compilation (diagnostics a)) := by
  refine c.fst_run_bind h _ fun a h => ?_
  split <;> rfl

/-- Whether the compiler is installed has an answer also where it cannot be started. -/
theorem fst_isInstalled :
    (c.isInstalled.run.run h).1 =
      match h.outcome c.command ["version"] with
      | .error .nulCharacter => .error c.nulFault
      | .error _ => .ok false
      | .ok a => .ok a.succeeded := by
  rw [isInstalled, run_tryCatch, run_bind, Host.run_run, outcome]
  match h.start? c.command ["version"] with
  | .ok program => rfl
  | .error refusal => cases refusal <;> rfl

/-- A question whose answers fail only for want of a compiler fails for nothing else, but for a
command that no program can have. -/
theorem fails_of_bind {α : Type} {c : Compiler} {h : Host} (hs : h.IsSearchable) (args : List Text)
    (hargs : ∀ word ∈ args, '\x00' ∉ word) {g : Answer → Except Error α}
    (hg : ∀ a e, g a = .error e → ∃ reason, e = .toolchainNotFound c.command reason) :
    ('\x00' ∈ c.command →
      (c.translated (h.outcome c.command args)).bind g = .error c.nulFault) ∧
      ('\x00' ∉ c.command → ∀ e, (c.translated (h.outcome c.command args)).bind g = .error e →
        ∃ reason, e = .toolchainNotFound c.command reason) := by
  have hnul : h.outcome c.command args = .error .nulCharacter ↔ '\x00' ∈ c.command := by
    rw [outcome_eq_nulCharacter_iff hs]
    exact ⟨fun ⟨word, hword, hin⟩ => (List.mem_cons.1 hword).elim (· ▸ hin)
      fun hword => absurd hin (hargs word hword), fun hin => ⟨_, List.mem_cons_self .., hin⟩⟩
  refine ⟨fun hin => by rw [hnul.2 hin]; rfl, fun hin e he => ?_⟩
  cases htranslated : c.translated (h.outcome c.command args) with
  | ok a =>
    rw [htranslated] at he
    exact hg a e he
  | error e' =>
    rw [htranslated] at he
    obtain rfl : e' = e := Except.error.inj he
    rcases translated_eq_error_iff.1 htranslated with ⟨houtcome, -⟩ | ⟨refusal, -, -, rfl⟩
    · exact absurd (hnul.1 houtcome) hin
    · exact ⟨_, rfl⟩

/-- The words of a build have such a character only from outside. -/
theorem exists_nul_mem_buildWords (c : Compiler) (goFile wasmFile : Text) :
    (∃ word ∈ c.command :: c.buildWords goFile wasmFile, '\x00' ∈ word) ↔
      '\x00' ∈ c.command ∨ '\x00' ∈ goFile ∨ '\x00' ∈ wasmFile := by
  have hopt : '\x00' ∉ c.optimization.text := by cases c.optimization <;> decide
  simp [buildWords, hopt, or_comm]

/-! ## §4 All failures -/

theorem isInstalled_eq_error_iff (hs : h.IsSearchable) (e : Error) :
    (c.isInstalled.run.run h).1 = .error e ↔ '\x00' ∈ c.command ∧ e = c.nulFault := by
  have hnul : h.outcome c.command ["version"] = .error .nulCharacter ↔ '\x00' ∈ c.command := by
    have hversion : '\x00' ∉ ("version" : Text) := by decide
    simpa [-String.reduceToList, hversion] using outcome_eq_nulCharacter_iff hs ["version"]
  rw [fst_isInstalled, ← hnul]
  match h.outcome c.command ["version"] with
  | .ok a => simp
  | .error refusal => cases refusal <;> simp [eq_comm]

/-- It is installed just if it tells its version, also when it is asked again. -/
theorem isInstalled_eq_true_iff {h h' : Host} (hsame : Alike h h') :
    (c.isInstalled.run.run h).1 = .ok true ↔ ∃ v, (c.version.run.run h').1 = .ok v := by
  rw [fst_isInstalled, fst_version, hsame.outcome_eq]
  match h.outcome c.command ["version"] with
  | .ok a => cases hsucceeded : a.succeeded <;> simp [translated, Except.bind, hsucceeded]
  | .error refusal => cases refusal <;> simp [translated, Except.bind]

theorem diagnostics_eq (a : Answer) :
    diagnostics a = printed (if a.stderr = [] then a.stdout else a.stderr) := by
  unfold diagnostics
  cases a.stderr <;> rfl

theorem compile_eq_error_iff (hs : h.IsSearchable) (goFile wasmFile : Text) (e : Error) :
    ((c.compile goFile wasmFile).run.run h).1 = .error e ↔
      ('\x00' ∈ c.command ∨ '\x00' ∈ goFile ∨ '\x00' ∈ wasmFile) ∧ e = c.nulFault ∨
        (∃ refusal, h.outcome c.command (c.buildWords goFile wasmFile) = .error refusal ∧
          refusal ≠ .nulCharacter ∧ e = c.refused refusal) ∨
        ∃ a, h.outcome c.command (c.buildWords goFile wasmFile) = .ok a ∧ a.succeeded = false ∧
          e = .compilation (printed (if a.stderr = [] then a.stdout else a.stderr)) := by
  rw [← exists_nul_mem_buildWords, ← outcome_eq_nulCharacter_iff hs, fst_compile, ← or_assoc,
    ← translated_eq_error_iff]
  simp only [← translated_eq_ok_iff (c := c), ← diagnostics_eq]
  match c.translated (h.outcome c.command (c.buildWords goFile wasmFile)) with
  | .error e' => simp [Except.bind]
  | .ok a => cases hsucceeded : a.succeeded <;> simp [Except.bind, hsucceeded, @eq_comm _ e]

/-- Everything that the operations of the compiler can fail for. A command without a character that
no word can hold is always told to be installed or not, and is installed just if it tells its
version; a question to it fails only because there is no compiler, and a build only because none
could be started or because the compiler fails, which then says why. Only a word with such a
character is refused otherwise. -/
theorem operation_failures {h h' : Host} (hs : h.IsSearchable) (hsame : Alike h h')
    (goFile wasmFile : Text) :
    (∀ e, (c.isInstalled.run.run h).1 = .error e ↔ '\x00' ∈ c.command ∧ e = c.nulFault) ∧
      ((c.isInstalled.run.run h).1 = .ok true ↔ ∃ v, (c.version.run.run h').1 = .ok v) ∧
      ('\x00' ∈ c.command → (c.version.run.run h).1 = .error c.nulFault ∧
        (c.root.run.run h).1 = .error c.nulFault) ∧
      ('\x00' ∉ c.command → ∀ e,
        (c.version.run.run h).1 = .error e ∨ (c.root.run.run h).1 = .error e →
          ∃ reason, e = .toolchainNotFound c.command reason) ∧
      ∀ e, ((c.compile goFile wasmFile).run.run h).1 = .error e ↔
        ('\x00' ∈ c.command ∨ '\x00' ∈ goFile ∨ '\x00' ∈ wasmFile) ∧ e = c.nulFault ∨
          (∃ refusal, h.outcome c.command (c.buildWords goFile wasmFile) = .error refusal ∧
            refusal ≠ .nulCharacter ∧ e = c.refused refusal) ∨
          ∃ a, h.outcome c.command (c.buildWords goFile wasmFile) = .ok a ∧ a.succeeded = false ∧
            e = .compilation (printed (if a.stderr = [] then a.stdout else a.stderr)) := by
  have hversion := fails_of_bind (c := c) hs ["version"] (by decide)
    (g := fun a => if a.succeeded then .ok (Text.trim (printed a.stdout))
      else .error (.toolchainNotFound c.command (said? a.stderr)))
    fun a e he => by
      split at he
      · cases he
      · exact ⟨_, (Except.error.inj he).symm⟩
  have hroot := fails_of_bind (c := c) hs ["env", "TINYGOROOT"] (by decide)
    (g := fun a => match a.succeeded, said? a.stdout with
      | true, some root => .ok (Path.ofText root)
      | _, _ => .error (.toolchainNotFound c.command
          (some ((said? a.stderr).getD "TINYGOROOT is not set"))))
    fun a e he => by
      split at he
      · cases he
      · exact ⟨_, (Except.error.inj he).symm⟩
  rw [← fst_version] at hversion
  rw [← fst_root] at hroot
  exact ⟨c.isInstalled_eq_error_iff h hs, c.isInstalled_eq_true_iff hsame,
    fun hin => ⟨hversion.1 hin, hroot.1 hin⟩,
    fun hin e he => he.elim (hversion.2 hin e) (hroot.2 hin e),
    c.compile_eq_error_iff h hs goFile wasmFile⟩

/-- A compiler under the name `t` that knows its version and finds fault with every source. -/
def faulting : Host where
  files := { items := [(["b".toList], ⟨.directory, 0⟩), (["b".toList, "t".toList], ⟨.file [], 0⟩)] }
  toolchain := {
    place := ["b".toList, "t".toList]
    presence := .executable
    answer := fun args _ =>
      if args = ["version".toList] then { succeeded := true, stdout := Utf8.encode "v1" }
      else { succeeded := false, stdout := Utf8.encode "no" } }
  searched := [Path.ofNames ["b".toList]]

theorem isSearchable_faulting : faulting.IsSearchable := by
  intro directory hdirectory
  obtain rfl := List.mem_singleton.1 hdirectory
  decide

/-- That compiler says why it fails, and that is all that is wrong with a build. -/
theorem operation_failures_faulting :
    let c : Compiler := { command := "t" }
    (c.isInstalled.run.run faulting).1 = .ok true ∧
      ((c.compile "a.go" "a.wasm").run.run faulting).1 = .error (.compilation "no") := by
  intro c
  have hversion : (c.version.run.run faulting).1 = .ok "v1".toList := by cbv
  have houtcome : faulting.outcome c.command (c.buildWords "a.go" "a.wasm") =
      .ok { succeeded := false, stdout := Utf8.encode "no" } := by
    have hstart : faulting.start? c.command (c.buildWords "a.go" "a.wasm") =
        .ok "/b/t".toList := by
      cbv
    rw [outcome, hstart]
    rfl
  obtain ⟨-, hinstalled, -, -, hcompile⟩ :=
    operation_failures c isSearchable_faulting (Alike.refl _) "a.go" "a.wasm"
  have hsaid : ("no" : Text) = printed (Utf8.encode "no") := by cbv
  refine ⟨hinstalled.2 ⟨_, hversion⟩, (hcompile _).2 (.inr (.inr ⟨_, houtcome, rfl, ?_⟩))⟩
  exact congrArg Error.compilation hsaid

/-- A command with a character that no word can hold: the refusal of it goes through where the
answer is to be that nothing is installed there, and where a failure is to say so. -/
theorem isInstalled_fails :
    let c : Compiler := { command := "t\x00" }
    (c.isInstalled.run.run faulting).1 = .error c.nulFault ∧
      (c.version.run.run faulting).1 = .error c.nulFault ∧
      (c.root.run.run faulting).1 = .error c.nulFault ∧
      ((c.compile "a.go" "a.wasm").run.run faulting).1 = .error c.nulFault ∧
      c.nulFault.isOwn = false := by
  cbv

end Compiler
end EmbeddedGo
