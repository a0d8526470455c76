/-
EmbeddedGo.Proofs.Interleaving — calls of a plugin that take turns.

In every order of turns the compiler is given the source of the module that it works for, and when all
calls have ended they came to what they come to one after the other. They do end if each has a turn
often enough, for whoever waits for a slot waits for one that will leave it. All of this is so only
on a host where slots are apart (`Ground`): two slots whose sources are links to one file share it,
and where the build root cannot be made, the first call is refused under another path than the next.

  §1 phases that are left
  §2 the end is reached; `transformAll`
  §3 a plugin to try, with and without links
  §4 calls of a plugin
  §5 a build root that cannot be
-/
import EmbeddedGo.Proofs.Turns

namespace EmbeddedGo

namespace Transform

open FileTree

variable {s : Settings} {h₀ : Host} {modules : List (Text × Text)} {started taken : List Nat}
  {r : Run} {i k : Nat}

/-! ## §1 Phases that are left -/

/-- How many phases a transform still has before it. -/
def Stage.left : Stage → Nat
  | ready .. => phaseCount
  | waiting _ => 5
  | holding _ => 4
  | written _ => 3
  | compiled .. => 2
  | leaving .. => 1
  | ended _ => 0

/-- Whether a turn leaves a transform where it is: it has ended, or waits for a slot that is held. -/
def Stage.IsIdle (d : Shared) : Stage → Prop
  | ended _ => True
  | waiting j => d.isHeld j.slot = true
  | _ => False

/-- The phases that are left to all transforms. -/
def Run.left (r : Run) : Nat := (r.stages.map Stage.left).sum

/-- Whether a turn for any of the transforms leaves it where it is. -/
def Run.IsIdle (r : Run) : Prop := ∀ st ∈ r.stages, st.IsIdle r.shared

/-- A turn takes a phase off those that are left, or nothing comes of it. -/
theorem left_step (st : Stage) (d : Shared) :
    ((st.step s).run d).1.left < st.left ∨ (st.step s).run d = (st, d) ∧ st.IsIdle d := by
  cases st with
  | ready code id =>
    left
    rw [Stage.step]
    split
    · rw [run_act]
      rcases (prepare s code id).run.run d.host with ⟨e | j, h⟩
      · show 0 < phaseCount
        decide
      · show 5 < phaseCount
        decide
    · show 0 < phaseCount
      decide
  | waiting j =>
    rw [run_step_waiting]
    by_cases hheld : d.isHeld j.slot = true
    · rw [if_pos hheld]
      exact .inr ⟨rfl, hheld⟩
    · rw [if_neg hheld]
      exact .inl (by simp [Stage.left])
  | holding j =>
    left
    rw [Stage.step, run_act]
    rcases (writeSource j).run.run d.host with ⟨e | u, h⟩
    · simp [Job.failed, Stage.left]
    · simp [Stage.left]
  | written j =>
    left
    rw [Stage.step, run_act]
    rcases (compile s j).run.run d.host with ⟨e | u, h⟩
    · simp [Job.failed, Stage.left]
    · simp [Stage.left]
  | compiled j warnings =>
    left
    rw [Stage.step, run_act]
    rcases (do writeDeclarations s j; return (← get).files.here :
      Action (List Text)).run.run d.host with ⟨e | here, h⟩
    · simp [Job.failed, Stage.left]
    · simp [Stage.left]
  | leaving slot outcome => exact .inl Nat.zero_lt_one
  | ended outcome => exact .inr ⟨rfl, trivial⟩

theorem sum_left_set {stages : List Stage} {st : Stage} (hst : stages[k]? = some st)
    (st' : Stage) :
    ((stages.set k st').map Stage.left).sum + st.left =
      (stages.map Stage.left).sum + st'.left := by
  induction stages generalizing k with
  | nil => cases hst
  | cons first rest ih =>
    cases k with
    | zero =>
      obtain rfl : first = st := Option.some.inj hst
      simp only [List.set_cons_zero, List.map_cons, List.sum_cons]
      omega
    | succ k =>
      have hrest := ih (k := k) hst
      simp only [List.set_cons_succ, List.map_cons, List.sum_cons]
      omega

theorem left_turn (r : Run) (k : Nat) :
    (r.turn s k).left < r.left ∨
      r.turn s k = r ∧ ∀ st, r.stages[k]? = some st → st.IsIdle r.shared := by
  cases hst : r.stages[k]? with
  | none =>
    right
    exact ⟨by rw [Run.turn, hst], by simp⟩
  | some st =>
    rcases left_step (s := s) st r.shared with hless | ⟨hsame, hidle⟩
    · left
      rw [turn_eq hst]
      have hsum := sum_left_set hst ((st.step s).run r.shared).1
      simp only [Run.left]
      omega
    · right
      refine ⟨turn_eq_self hst hsame, fun st' hst' => ?_⟩
      obtain rfl := Option.some.inj hst'
      exact hidle

theorem turns_cons (r : Run) (k : Nat) (schedule : List Nat) :
    r.turns s (k :: schedule) = (r.turn s k).turns s schedule := rfl

theorem turns_append (r : Run) (before behind : List Nat) :
    r.turns s (before ++ behind) = (r.turns s before).turns s behind :=
  List.foldl_append ..

theorem left_turns_le (r : Run) (schedule : List Nat) : (r.turns s schedule).left ≤ r.left := by
  induction schedule generalizing r with
  | nil => exact Nat.le_refl _
  | cons k schedule ih =>
    rw [turns_cons]
    refine (ih _).trans ?_
    rcases left_turn (s := s) r k with hless | ⟨hsame, -⟩
    · exact hless.le
    · rw [hsame]

/-- Turns take a phase off those that are left, or nothing comes of any of them. -/
theorem left_turns (r : Run) (schedule : List Nat) :
    (r.turns s schedule).left < r.left ∨
      ∀ k ∈ schedule, ∀ st, r.stages[k]? = some st → st.IsIdle r.shared := by
  induction schedule with
  | nil => exact .inr (by simp)
  | cons k schedule ih =>
    rw [turns_cons]
    rcases left_turn (s := s) r k with hless | ⟨hsame, hidle⟩
    · exact .inl ((left_turns_le _ _).trans_lt hless)
    · rw [hsame]
      refine ih.imp_right fun hrest i hi => ?_
      rcases List.mem_cons.1 hi with rfl | hi
      · exact hidle
      · exact hrest i hi

theorem hasEnded_of_left (h : r.left = 0) : r.HasEnded := by
  intro st hst
  have hzero : st.left = 0 :=
    List.sum_eq_zero_iff_forall_eq_nat.1 h _ (List.mem_map_of_mem hst)
  cases st with
  | ended outcome => exact ⟨outcome, rfl⟩
  | _ => simp [Stage.left, phaseCount] at hzero

theorem Run.HasEnded.left (h : r.HasEnded) : r.left = 0 := by
  refine List.sum_eq_zero_iff_forall_eq_nat.2 fun n hn => ?_
  obtain ⟨st, hst, rfl⟩ := List.mem_map.1 hn
  obtain ⟨outcome, rfl⟩ := h st hst
  rfl

/-! ## §2 The end is reached -/

/-- Whoever waits for a slot waits for one that will leave it. -/
theorem Inv.hasEnded_of_isIdle (hinv : Inv s h₀ modules started taken r) (hidle : r.IsIdle) :
    r.HasEnded := by
  intro st hst
  have hst' := hidle st hst
  cases st with
  | ended outcome => exact ⟨outcome, rfl⟩
  | waiting j =>
    obtain ⟨i, holder, hholder, hheld⟩ := (hinv.locks j.slot).1 hst'
    have hstuck := hidle holder (List.mem_of_getElem? hholder)
    cases holder with
    | ended _ => cases hheld
    | waiting _ => cases hheld
    | _ => exact hstuck.elim
  | _ => exact hst'.elim

theorem left_start : (Run.start modules h₀).left = phaseCount * modules.length := by
  have hconst : (Run.start modules h₀).stages.map Stage.left =
      List.replicate modules.length phaseCount := by
    rw [Run.start, List.map_map]
    exact List.map_const' ..
  rw [Run.left, hconst, List.sum_replicate_nat, Nat.mul_comm]

theorem map_ended_outcomes {stages : List Stage} (h : ∀ st ∈ stages, ∃ outcome, st = .ended outcome) :
    (stages.filterMap Stage.outcome?).map .ended = stages := by
  induction stages with
  | nil => rfl
  | cons st stages ih =>
    obtain ⟨outcome, rfl⟩ := h st (List.mem_cons_self ..)
    have ih := ih fun st hst => h st (List.mem_cons_of_mem _ hst)
    exact congrArg (.ended outcome :: ·) ih

/-- The turns that `transformAll` gives to transforms. -/
def rounds (modules : List (Text × Text)) : List Nat :=
  (List.replicate (phaseCount * (modules.length + 1)) (List.range modules.length)).flatten

theorem run_transformAll :
    (transformAll s modules).run h₀ =
      (((Run.start modules h₀).turns s (rounds modules)).stages.filterMap Stage.outcome?,
        ((Run.start modules h₀).turns s (rounds modules)).shared.host) := rfl

theorem run_sequence (done : List (Text × Text)) :
    (sequence s done).run h₀ = (((sequence s done).run h₀).1, hostAfter s h₀ done) :=
  Prod.ext rfl (host_sequence h₀ done)

section End

variable (hs : s.buildRoot.IsResolved) (hground : Ground s h₀ (slotsOf modules))

include hs hground

/-- Rounds in which every transform has a turn lead to the end, if there are as many as phases are
left: none of them passes without a phase unless all have ended. -/
theorem Inv.hasEnded_rounds (hinv : Inv s h₀ modules started taken r) {rounds : Nat}
    (hrounds : r.left ≤ rounds) {round : List Nat} (hround : ∀ i < modules.length, i ∈ round) :
    (r.turns s (List.replicate rounds round).flatten).HasEnded := by
  induction rounds generalizing started taken r with
  | zero => exact hasEnded_of_left (Nat.le_zero.1 hrounds)
  | succ rounds ih =>
    rw [List.replicate_succ, List.flatten_cons, turns_append]
    obtain ⟨started', hturns⟩ := hinv.turns hs hground round
    refine ih hturns ?_
    rcases left_turns (s := s) r round with hless | hidle
    · omega
    · have hended : r.HasEnded := by
        refine hinv.hasEnded_of_isIdle fun st hst => ?_
        obtain ⟨i, hlt, rfl⟩ := List.mem_iff_getElem.1 hst
        exact hidle i (hround i (hinv.length ▸ hlt)) _ (List.getElem?_eq_getElem hlt)
      have hle := left_turns_le (s := s) r round
      rw [hended.left] at hle
      omega

theorem hasEnded_rounds_start :
    ((Run.start modules h₀).turns s (rounds modules)).HasEnded := by
  refine (inv_start hground).hasEnded_rounds hs hground ?_ fun i hi => List.mem_range.2 hi
  rw [left_start]
  exact Nat.mul_le_mul_left _ (Nat.le_succ _)

/-- Transforms that take turns until they have all ended come to what they come to one after the
other, in some order. -/
theorem transformAll_sequence :
    ∃ order outcomes last done host, order.Perm (List.range modules.length) ∧
      (sequence s (calls modules order)).run h₀ = (outcomes, last) ∧
      (transformAll s modules).run h₀ = (done, host) ∧
      order.map (done[·]?) = outcomes.map some ∧
      ∀ place, host.files.entryAt place = last.files.entryAt place := by
  obtain ⟨started, hinv⟩ := (inv_start hground).turns hs hground (rounds modules)
  have hended : Run.HasEnded _ := hasEnded_rounds_start hs hground
  have hf := hinv.follows
  refine ⟨_, _, _, _, _, hf.perm, run_sequence _, run_transformAll, ?_,
    hinv.entryAt_eq hs hground hended hf⟩
  have hstages := hinv.map_stages hs hground hended hf (List.prefix_refl _)
  rw [← map_ended_outcomes hended] at hstages
  have hinj : Function.Injective (Option.map Stage.ended) :=
    Option.map_injective fun _ _ h => Stage.ended.inj h
  refine hinj.list_map ?_
  rw [List.map_map, List.map_map]
  refine Eq.trans (List.map_congr_left fun i _ => ?_) hstages
  exact (List.getElem?_map ..).symm

end End

/-! ## §3 A plugin to try -/

/-- A host with a compiler that gives its source back. -/
def echoHost (files : FileTree) : Host :=
  { files
    toolchain :=
      { place := ["t".toList]
        presence := .executable
        answer := fun _ source => { succeeded := true, written := some source } } }

/-- A plugin for the build root `/b`. -/
def smallPlugin : Plugin :=
  { options := { tinygoPath := "/t", buildDirectory := "b" }
    projectRoot := Path.ofNames []
    buildRoot := Path.ofNames ["b".toList]
    mode := .build }

/-- The compiler, and a few entries more. -/
def smallTree (more : List (Place × Item)) : FileTree :=
  { items := (["t".toList], ⟨.file [], 0⟩) :: more }

/-- Two modules of one slot, and one of another. -/
def smallModules : List (Text × Text) :=
  [("\"use golang\"\na", "/a"), ("\"use golang\"\nb", "/a"), ("\"use golang\"\nb", "/b")]

/-- The jobs of a module of one line in each of these slots. -/
def jobA : Job := jobOf smallPlugin.settings "/a" "a"

@[inherit_doc jobA]
def jobB : Job := jobOf smallPlugin.settings "/b" "b"

theorem directory_jobA : jobA.directory = Path.ofNames ["b".toList, "a_0639767f".toList] := by
  show smallPlugin.buildRoot.child (Slot.name "/a") = _
  cbv

theorem directory_jobB : jobB.directory = Path.ofNames ["b".toList, "b_97aa0bb1".toList] := by
  show smallPlugin.buildRoot.child (Slot.name "/b") = _
  cbv

theorem entryAt_smallTree (place : Place) :
    (smallTree []).entryAt place =
      if place = [] then some .directory
      else if place = ["t".toList] then some (.file []) else none := by
  by_cases hnil : place = []
  · subst hnil
    rfl
  · rw [entryAt, get?, if_neg hnil, if_neg hnil]
    by_cases ht : place = ["t".toList]
    · subst ht
      rfl
    · rw [if_neg ht, show (smallTree []).items = [(["t".toList], ⟨.file [], 0⟩)] from rfl,
        List.lookup_cons, beq_false_of_ne ht]
      rfl

/-- Where nothing but the compiler is there, slots are apart. -/
theorem ground_small (slots : List Text) :
    Ground smallPlugin.settings (echoHost (smallTree [])) slots where
  tidy := by
    intro place q name hq he
    change (smallTree []).entryAt _ ≠ none at he
    show (smallTree []).entryAt q = _
    rw [entryAt_smallTree, if_neg (by simp)] at he
    by_cases ht : q ++ [name] = [] ++ ["t".toList]
    · rw [(List.append_inj' ht rfl).1, entryAt_nil]
    · exact absurd (if_neg ht) he
  fits := by
    intro n hn
    obtain rfl := List.mem_singleton.1 hn
    unfold Fits
    decide
  straight := by
    intro slot _ name _ q _ target
    show (smallTree []).entryAt q ≠ _
    rw [entryAt_smallTree]
    split
    · simp
    · split <;> simp
  start := by
    intro files houtside args
    have hplain : ∀ n ∈ [] ++ ["t".toList], Path.IsPlain n := by
      intro n hn
      obtain rfl := List.mem_singleton.1 hn
      constructor <;> decide
    have hfits : ∀ n ∈ [] ++ ["t".toList], Fits n := by
      unfold Fits
      decide
    have hfile : (smallTree []).entryAt ([] ++ ["t".toList]) = some (.file []) := rfl
    exact start?_of_keeps hplain hfits (by decide) rfl (isOpen_nil _) hfile houtside.keeps args

section Turn

variable {t t' : FileTree} {j : Job}

theorem step_ready_echo {code id unit : Text} (hp : Directive.isPresent code = true)
    (hunit : Directive.extract code = .ok unit)
    (hmake : t.makePath (jobOf smallPlugin.settings id unit).directory = (.ok (), t'))
    (locks : List (Text × Bool)) :
    ((Stage.ready code id).step smallPlugin.settings).run ⟨echoHost t, locks⟩ =
      (.waiting (jobOf smallPlugin.settings id unit), ⟨echoHost t', locks⟩) := by
  have hrun := run_prepare_of_makePath (h := echoHost t) hunit hmake
  rw [Stage.step, if_pos hp, run_act, hrun]
  rfl

theorem step_holding_echo (hwrite : t.write j.goFile (Utf8.encode j.source) = .ok t')
    (locks : List (Text × Bool)) :
    ((Stage.holding j).step smallPlugin.settings).run ⟨echoHost t, locks⟩ =
      (.written j, ⟨echoHost t', locks⟩) := by
  rw [Stage.step, run_act, run_writeSource, show (echoHost t).files = t from rfl, hwrite]
  rfl

end Turn

/-- What the two lines come to as modules. -/
theorem directive_small :
    (Directive.isPresent "\"use golang\"\na" = true ∧
        Directive.extract "\"use golang\"\na" = .ok "a".toList) ∧
      Directive.isPresent "\"use golang\"\nb" = true ∧
        Directive.extract "\"use golang\"\nb" = .ok "b".toList :=
  ⟨⟨by cbv, by cbv⟩, by cbv, by cbv⟩

/-- The files once the first module has its slot, and once its source stands there. -/
def slotA (source : Option Bytes) : List (Place × Item) :=
  [(["b".toList], ⟨.directory, 0⟩), (["b".toList, "a_0639767f".toList], ⟨.directory, 0⟩)] ++
    (source.map fun content =>
      (["b".toList, "a_0639767f".toList, "main.go".toList], ⟨.file content, 0⟩)).toList

/-- Three turns for the first transform. -/
theorem turns_small (rest : List Stage) :
    Run.turns smallPlugin.settings
        ⟨.ready "\"use golang\"\na" "/a" :: rest, ⟨echoHost (smallTree []), []⟩⟩ [0, 0, 0] =
      ⟨.written jobA :: rest,
        ⟨echoHost (smallTree (slotA (some (Utf8.encode jobA.source)))), [(jobA.slot, true)]⟩⟩ := by
  obtain ⟨⟨hp, hunit⟩, -⟩ := directive_small
  have hmake : (smallTree []).makePath jobA.directory = (.ok (), smallTree (slotA none)) := by
    rw [directory_jobA]
    cbv
  have hwrite : (smallTree (slotA none)).write jobA.goFile (Utf8.encode jobA.source) =
      .ok (smallTree (slotA (some (Utf8.encode jobA.source)))) := by
    rw [Job.goFile, directory_jobA]
    generalize Utf8.encode jobA.source = content
    cbv
  have hready : Run.turn smallPlugin.settings
      ⟨.ready "\"use golang\"\na" "/a" :: rest, ⟨echoHost (smallTree []), []⟩⟩ 0 =
        ⟨.waiting jobA :: rest, ⟨echoHost (smallTree (slotA none)), []⟩⟩ := by
    rw [turn_eq rfl, step_ready_echo hp hunit hmake]
    rfl
  have htake : Run.turn smallPlugin.settings
      ⟨.waiting jobA :: rest, ⟨echoHost (smallTree (slotA none)), []⟩⟩ 0 =
        ⟨.holding jobA :: rest, ⟨echoHost (smallTree (slotA none)), [(jobA.slot, true)]⟩⟩ := by
    rw [turn_eq rfl, run_step_waiting]
    rfl
  rw [turns_cons, turns_cons, turns_cons, hready, htake, turn_eq rfl, step_holding_echo hwrite]
  rfl

theorem slot_jobB_ne : jobB.slot ≠ jobA.slot := by
  intro h
  have hdirs : jobB.directory = jobA.directory :=
    congrArg smallPlugin.settings.buildRoot.child h
  rw [directory_jobA, directory_jobB] at hdirs
  exact absurd hdirs (by decide)

/-- A slot whose source is a link. -/
def linkedSlot (slot : Text) : List (Place × Item) :=
  [(["b".toList, slot], ⟨.directory, 0⟩), (["b".toList, slot, "main.go".toList], ⟨.link "/x", 0⟩)]

/-- Two slots whose sources are links to one file. -/
def linkedTree (source : Option Bytes) : FileTree :=
  smallTree ((["b".toList], ⟨.directory, 0⟩) :: linkedSlot "a_0639767f" ++ linkedSlot "b_97aa0bb1" ++
    (source.map fun content => (["x".toList], ⟨.file content, 0⟩)).toList)

section Linked

variable {j : Job} {slot : Text} (hdir : j.directory = Path.ofNames ["b".toList, slot])
  (hslot : slot = "a_0639767f".toList ∨ slot = "b_97aa0bb1".toList)

include hdir hslot

theorem makePath_linked : (linkedTree none).makePath j.directory = (.ok (), linkedTree none) := by
  rw [hdir]
  rcases hslot with rfl | rfl <;> cbv

theorem write_linked (source : Option Bytes) (content : Bytes) :
    (linkedTree source).write j.goFile content = .ok (linkedTree (some content)) := by
  rw [Job.goFile, hdir]
  rcases hslot with rfl | rfl <;> cases source <;> cbv

theorem sourceOf_linked (content : Bytes) :
    (echoHost (linkedTree (some content))).sourceOf
      (smallPlugin.settings.compiler.buildWords j.goFile.text j.wasmFile.text) = content := by
  rw [Job.goFile, Job.wasmFile, hdir]
  rcases hslot with rfl | rfl <;> cbv

end Linked

/-- The transforms of two modules in these slots. -/
def linkedRun : Run :=
  Run.start [("\"use golang\"\na", "/a"), ("\"use golang\"\nb", "/b")] (echoHost (linkedTree none))

/-- Both transforms get to their slots. -/
theorem turns_linkedRun_ready :
    linkedRun.turns smallPlugin.settings [0, 1] =
      ⟨[.waiting jobA, .waiting jobB], ⟨echoHost (linkedTree none), []⟩⟩ := by
  obtain ⟨⟨hpA, hunitA⟩, hpB, hunitB⟩ := directive_small
  have hfirst : linkedRun.turn smallPlugin.settings 0 =
      ⟨[.waiting jobA, .ready "\"use golang\"\nb" "/b"], ⟨echoHost (linkedTree none), []⟩⟩ := by
    have hst : linkedRun.stages[0]? = some (.ready "\"use golang\"\na" "/a") := rfl
    rw [turn_eq hst, show linkedRun.shared = ⟨echoHost (linkedTree none), []⟩ from rfl,
      step_ready_echo hpA hunitA (makePath_linked directory_jobA (.inl rfl))]
    rfl
  rw [turns_cons, turns_cons, hfirst, turn_eq rfl,
    step_ready_echo hpB hunitB (makePath_linked directory_jobB (.inr rfl))]
  rfl

/-- Both transforms take their slots. -/
theorem turns_linkedRun_waiting :
    Run.turns smallPlugin.settings
        ⟨[.waiting jobA, .waiting jobB], ⟨echoHost (linkedTree none), []⟩⟩ [0, 1] =
      ⟨[.holding jobA, .holding jobB],
        ⟨echoHost (linkedTree none), Table.put jobB.slot true [(jobA.slot, true)]⟩⟩ := by
  have hopen : Shared.isHeld ⟨echoHost (linkedTree none), [(jobA.slot, true)]⟩ jobB.slot = false := by
    have h := isHeld_setHeld ⟨echoHost (linkedTree none), []⟩ jobA.slot jobB.slot true
    rwa [if_neg slot_jobB_ne] at h
  have hfirst : Run.turn smallPlugin.settings
      ⟨[.waiting jobA, .waiting jobB], ⟨echoHost (linkedTree none), []⟩⟩ 0 =
        ⟨[.holding jobA, .waiting jobB],
          ⟨echoHost (linkedTree none), [(jobA.slot, true)]⟩⟩ := by
    rw [turn_eq rfl, run_step_waiting]
    rfl
  rw [turns_cons, turns_cons, hfirst, turn_eq rfl, run_step_waiting, hopen]
  rfl

/-- Each writes its source, and the file is the same. -/
theorem turns_linkedRun_holding (locks : List (Text × Bool)) :
    Run.turns smallPlugin.settings
        ⟨[.holding jobA, .holding jobB], ⟨echoHost (linkedTree none), locks⟩⟩ [0, 1] =
      ⟨[.written jobA, .written jobB],
        ⟨echoHost (linkedTree (some (Utf8.encode jobB.source))), locks⟩⟩ := by
  have hfirst : Run.turn smallPlugin.settings
      ⟨[.holding jobA, .holding jobB], ⟨echoHost (linkedTree none), locks⟩⟩ 0 =
        ⟨[.written jobA, .holding jobB],
          ⟨echoHost (linkedTree (some (Utf8.encode jobA.source))), locks⟩⟩ := by
    rw [turn_eq rfl, step_holding_echo (write_linked directory_jobA (.inl rfl) none _)]
    rfl
  rw [turns_cons, turns_cons, hfirst, turn_eq rfl,
    step_holding_echo (write_linked directory_jobB (.inr rfl) (some _) _)]
  rfl

end Transform

/-! ## §4 Calls of a plugin -/

open Transform

/-- What transforms of a plugin come to in turns. While one holds its slot the compiler is given the
source of its own module. And at the end each has come to what it comes to one after the other, with
the same files, in every order in which those that took the same slot come as they took it. -/
theorem Plugin.turns_sequence {tree : FileTree} (hhere : ∀ n ∈ tree.here, Path.IsPlain n)
    {options : Options} {root mode : Text} {plugin : Plugin}
    (hcreate : Plugin.create tree options (Path.ofText root) mode = .ok plugin)
    {h : Host} {modules : List (Text × Text)}
    (hground : Ground plugin.settings h (slotsOf modules)) {schedule : List Nat} {r : Run}
    (hrun : (Run.start modules h).turns plugin.settings schedule = r) :
    (∀ (i : Nat) (j : Job), r.stages[i]? = some (.written j) →
      ∃ m unit, modules[i]? = some m ∧ Directive.extract m.1 = .ok unit ∧
        j = jobOf plugin.settings m.2 unit ∧
        r.shared.host.sourceOf
          (plugin.settings.compiler.buildWords j.goFile.text j.wasmFile.text) =
            Utf8.encode j.source) ∧
    (r.HasEnded →
      (∃ order, Follows modules ((Run.start modules h).taken plugin.settings schedule) order) ∧
      ∀ order, Follows modules ((Run.start modules h).taken plugin.settings schedule) order →
        ∃ outcomes last,
          (sequence plugin.settings (calls modules order)).run h = (outcomes, last) ∧
          order.map (r.stages[·]?) = outcomes.map (fun outcome => some (.ended outcome)) ∧
          ∀ place, r.shared.host.files.entryAt place = last.files.entryAt place) := by
  have hs : plugin.settings.buildRoot.IsResolved := (Plugin.isResolved_of_create hhere hcreate).2
  obtain ⟨started, hinv⟩ := (inv_start hground).turns hs hground schedule
  rw [hrun, List.nil_append] at hinv
  refine ⟨fun i j hst => ?_, fun hended => ⟨⟨_, hinv.follows⟩, fun order hf => ?_⟩⟩
  · have hlt : i < modules.length := by
      rw [← hinv.length]
      exact (List.getElem?_eq_some_iff.1 hst).1
    have hm : modules[i]? = some modules[i] := List.getElem?_eq_getElem hlt
    have hslot : Slot.name modules[i].2 ∈ slotsOf modules := name_mem_slotsOf (List.getElem_mem hlt)
    have hbegun := hinv.began i _ hst rfl
    generalize hwritten : Stage.written j = st at hst
    cases hinv.stands i _ st hm hst with
    | @holding unit _ before hunit hearly hworking hheld hlast hrest hsource =>
      subst hwritten
      cases hworking
      have hwork := hinv.workable hm hbegun hearly
      obtain ⟨haccepted, hstands⟩ := hsource _ rfl
      refine ⟨_, unit, hm, hunit, rfl, ?_⟩
      rw [goFile_jobOf hs, wasmFile_jobOf hs]
      show r.shared.host.sourceOf (plugin.settings.slotWords (Slot.name modules[i].2)) = _
      rw [sourceOf_slotWords hs hground hslot (Slot.isPlain_name _) (wayOf_of_not_early hearly).2
        hwork, haccepted, hstands]
    | _ => cases hwritten
  · exact ⟨_, _, run_sequence _, hinv.map_stages hs hground hended hf (List.prefix_refl _),
      hinv.entryAt_eq hs hground hended hf⟩

/-- Three calls, two of them of one slot: in the middle of the first, and when all have ended. -/
theorem Plugin.turns_sequence_small :
    (∃ m unit, smallModules[0]? = some m ∧ Directive.extract m.1 = .ok unit ∧
      jobA = jobOf smallPlugin.settings m.2 unit ∧
      ((Run.start smallModules (echoHost (smallTree []))).turns smallPlugin.settings
          [0, 0, 0]).shared.host.sourceOf
        (smallPlugin.settings.compiler.buildWords jobA.goFile.text jobA.wasmFile.text) =
          Utf8.encode jobA.source) ∧
    ∃ r : Run, (Run.start smallModules (echoHost (smallTree []))).turns smallPlugin.settings
        (rounds smallModules) = r ∧ r.HasEnded ∧
      ∃ order outcomes last,
        (sequence smallPlugin.settings (calls smallModules order)).run (echoHost (smallTree [])) =
          (outcomes, last) ∧
        order.map (r.stages[·]?) = outcomes.map (fun outcome => some (.ended outcome)) ∧
        ∀ place, r.shared.host.files.entryAt place = last.files.entryAt place := by
  have hcreate : Plugin.create (smallTree []) smallPlugin.options (Path.ofText "/") "build" =
      .ok smallPlugin := create_eq_ok_iff.2 ⟨by cbv, by cbv, rfl, rfl⟩
  have hground := ground_small (slotsOf smallModules)
  have hended : Run.HasEnded _ :=
    hasEnded_rounds_start (Plugin.isResolved_of_create (by simp [smallTree]) hcreate).2 hground
  have hwritten : ((Run.start smallModules (echoHost (smallTree []))).turns smallPlugin.settings
      [0, 0, 0]).stages[0]? = some (.written jobA) := by
    rw [show Run.start smallModules (echoHost (smallTree [])) =
      ⟨.ready "\"use golang\"\na" "/a" :: smallModules.tail.map fun m => .ready m.1 m.2,
        ⟨echoHost (smallTree []), []⟩⟩ from rfl, turns_small]
    rfl
  refine ⟨(Plugin.turns_sequence (by simp [smallTree]) hcreate hground rfl).1 0 jobA hwritten, ?_⟩
  obtain ⟨⟨order, hf⟩, hall⟩ :=
    (Plugin.turns_sequence (by simp [smallTree]) hcreate hground rfl).2 hended
  obtain ⟨outcomes, last, hsequence, hstages, hfiles⟩ := hall order hf
  exact ⟨_, rfl, hended, order, outcomes, last, hsequence, hstages, hfiles⟩

/-- Two transforms hold slots whose sources are links to one file. The compiler is given the source of
the one that wrote last, whichever it works for. -/
theorem Plugin.turns_share_source :
    Plugin.create (linkedTree none) smallPlugin.options (Path.ofText "/") "build" =
        .ok smallPlugin ∧
      ∃ r : Run, linkedRun.turns smallPlugin.settings [0, 1, 0, 1, 0, 1] = r ∧
        r.stages[0]? = some (.written jobA) ∧
        r.shared.host.sourceOf (smallPlugin.settings.compiler.buildWords jobA.goFile.text
          jobA.wasmFile.text) ≠ Utf8.encode jobA.source := by
  have hcreate : Plugin.create (linkedTree none) smallPlugin.options (Path.ofText "/") "build" =
      .ok smallPlugin := create_eq_ok_iff.2 ⟨by cbv, by cbv, rfl, rfl⟩
  refine ⟨hcreate, _, rfl, ?_⟩
  rw [show ([0, 1, 0, 1, 0, 1] : List Nat) = [0, 1] ++ ([0, 1] ++ [0, 1]) from rfl, turns_append,
    turns_append, turns_linkedRun_ready, turns_linkedRun_waiting, turns_linkedRun_holding]
  refine ⟨rfl, ?_⟩
  rw [sourceOf_linked directory_jobA (.inl rfl)]
  decide

/-! ## §5 A build root that cannot be -/

namespace Transform

/-- A name of 64 characters of four bytes each, which no entry can have. -/
def longName : Text := List.replicate 64 '𝄞'

/-- A plugin whose build root has that name. -/
def longPlugin : Plugin :=
  { smallPlugin with
    options := { tinygoPath := "/t", buildDirectory := "a/" ++ longName }
    buildRoot := Path.ofNames ["a".toList, longName] }

/-- A refusal of the path that leads down to these names. -/
def tooLongAt (names : Place) : Fault :=
  { refusal := .nameTooLong, path := (Path.ofNames names).text }

theorem directory_long : (jobOf longPlugin.settings "/a" "a").directory =
    Path.ofNames ["a".toList, longName, "a_0639767f".toList] := by
  show longPlugin.buildRoot.child (Slot.name "/a") = _
  cbv

set_option maxRecDepth 4096 in
theorem makePath_long :
    (smallTree []).makePath (jobOf longPlugin.settings "/a" "a").directory =
        (.error (tooLongAt ["a".toList, longName]),
          smallTree [(["a".toList], ⟨.directory, 0⟩)]) ∧
      (smallTree [(["a".toList], ⟨.directory, 0⟩)]).makePath
          (jobOf longPlugin.settings "/a" "a").directory =
        (.error (tooLongAt ["a".toList, longName, "a_0639767f".toList]),
          smallTree [(["a".toList], ⟨.directory, 0⟩)]) := by
  rw [directory_long]
  exact ⟨by cbv, by cbv⟩

theorem run_transform_long {t t' : FileTree} {f : Fault}
    (h : t.makePath (jobOf longPlugin.settings "/a" "a").directory = (.error f, t')) :
    (transform longPlugin.settings "\"use golang\"\na" "/a").run.run (echoHost t) =
      (.error (.transform "/a" (.fault f)), echoHost t') := by
  obtain ⟨⟨hp, hunit⟩, -⟩ := directive_small
  rw [run_transform_of_present hp, run_prepare, hunit]
  dsimp only
  rw [show (echoHost t).files.makePath _ = _ from h]
  rfl

end Transform

set_option maxRecDepth 4096 in
/-- The build root has a name that no entry can have. The first of two calls for the same module
makes the directories before that name, and is refused under another path than the second, though
neither gets to its slot. -/
theorem Plugin.sequence_long_name :
    Plugin.create (smallTree []) longPlugin.options (Path.ofText "/") "build" = .ok longPlugin ∧
      ∃ first second, first ≠ second ∧
        ((sequence longPlugin.settings
          [("\"use golang\"\na", "/a"), ("\"use golang\"\na", "/a")]).run
            (echoHost (smallTree []))).1 = [first, second] := by
  obtain ⟨hfirst, hsecond⟩ := makePath_long
  refine ⟨create_eq_ok_iff.2 ⟨by cbv, by cbv, rfl, rfl⟩,
    .error (.transform "/a" (.fault (tooLongAt ["a".toList, longName]))),
    .error (.transform "/a" (.fault (tooLongAt ["a".toList, longName, "a_0639767f".toList]))), ?_, ?_⟩
  · intro h
    simp only [Except.error.injEq, Error.transform.injEq, Error.fault.injEq, true_and] at h
    exact absurd (congrArg (fun f => f.path.length) h) (by decide)
  · rw [run_sequence_cons, run_transform_long hfirst, run_sequence_cons, run_transform_long hsecond]
    rfl

end EmbeddedGo
