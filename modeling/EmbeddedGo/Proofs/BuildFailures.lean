/-
EmbeddedGo.Proofs.BuildFailures — builds in which modules fail.

A module can fail for itself: its transform fails, or something it refers to is not there. Then it is
counted, and the build goes on. Every other module has its output, in which there are the URLs of its
assets, and all of these are there (`build_survives`). What a build relies on for that, besides its
modules, is named in `Proceeds`: it concerns the places it writes to, the names it shows, and digests.
What was emitted for a module before it failed stays emitted, so an asset can be there that no output
refers to.

A file that cannot be read as a text is no such failure. It ends the build in its turn: later files have
no output, and no asset is written at all, not even for the outputs that are there
(`build_ends_unread`).

  §1 a turn that ends the build
  §2 all turns
  §3 outputs and their assets
  §4 a build with failures
  §5 a module that fails
  §6 a file that is no text
-/
import EmbeddedGo.Proofs.BuildAssets

namespace EmbeddedGo.Command

open EmbeddedGo.Bundle FileTree

variable {h : Host} {c : Common} {root out : Path} {files before after : List Text} {word file : Text}
  {p : Plugin} {d d' first turned : Progress} {left : Session} {k n : Nat} {stop : Stop}

/-! ## §1 The end of a build -/

theorem run_buildFiles_append {d₁ : Progress}
    (hbefore : (buildFiles p out before).run.run d = (.ok k, d₁))
    (hfile : (buildFile p out file).run.run d₁ = (.error stop, d')) :
    (buildFiles p out (before ++ file :: after)).run.run d = (.error stop, d') := by
  induction before generalizing d k with
  | nil =>
    cases hbefore
    rw [List.nil_append, buildFiles, run_bind, hfile]
  | cons other before ih =>
    obtain ⟨failed, m, d₂, hother, hrest, -⟩ := of_buildFiles_cons hbefore
    rw [List.cons_append, buildFiles, run_bind, hother]
    dsimp only
    rw [run_bind, ih hrest]

/-- A turn that ends the build leaves everything as it is then. -/
theorem build_ends_in_turn (hb : Begins h c root files word p out first)
    (hfiles : files = before ++ file :: after)
    (hbefore : (buildFiles p out before).run.run first = (.ok k, d))
    (hfile : (buildFile p out file).run.run d = (.error stop, d')) :
    ∃ stop last, (build c root files word).run.run { session := { host := h } } =
      (.error stop, last) ∧ last.session = d'.session := by
  have hturns : (buildFiles p out files).run.run first = (.error stop, d') := by
    rw [hfiles, run_buildFiles_append hbefore hfile]
  have hall : ∃ stop last, (buildAll p out files).run.run first = (.error stop, last) ∧
      last.session = d'.session := by
    have hshow : SameSession d' (showTask.run.run d').2 := quiet_showTask d'
    rw [buildAll, run_bind, run_lift, show (buildFiles p out files).run.run first = _ from hturns]
    dsimp only
    rw [run_bind]
    rcases hrun : showTask.run.run d' with ⟨stop' | u, d₁⟩
    · rw [hrun] at hshow
      exact ⟨stop', d₁, rfl, hshow⟩
    · rw [hrun] at hshow
      exact ⟨stop, d₁, rfl, hshow⟩
  obtain ⟨stop', last, hall, hlast⟩ := hall
  refine ⟨stop', last, ?_, hlast⟩
  rw [build_eq, run_bind, hb.begins]
  dsimp only
  rw [run_bind, hall]

/-- A file that is no text ends the build. What stands then stood when its turn came: the outputs of
the files before it, and no asset. -/
theorem build_ends_unread (hb : Begins h c root files word p out first)
    (hfiles : files = before ++ file :: after)
    (hbefore : (buildFiles p out before).run.run first = (.ok k, d))
    (hunread : ∀ source code, ¬ Reads d.session.host file source code) :
    ∃ stop last, (build c root files word).run.run { session := { host := h } } =
      (.error stop, last) ∧ last.session = d.session := by
  obtain ⟨stop, d', hrun, hsame⟩ := run_buildFile_of_not_reads p out hunread
  obtain ⟨stop', last, hbuild, hlast⟩ := build_ends_in_turn hb hfiles hbefore hrun
  exact ⟨stop', last, hbuild, hlast.trans hsame⟩

/-! ## §2 All turns -/

/-- No turn of a build is broken. -/
def IsCalm (p : Plugin) (out : Path) (files : List Text) (d : Progress) : Prop :=
  ∀ before file after, files = before ++ file :: after → ¬ Breaks p out file (reached p out before d)

theorem IsCalm.tail {failed : Bool} (hcalm : IsCalm p out (file :: files) d)
    (h : (buildFile p out file).run.run d = (.ok failed, d')) : IsCalm p out files d' := by
  intro before other after hfiles hbreaks
  refine hcalm (file :: before) other after (by rw [hfiles, List.cons_append]) ?_
  rwa [reached_cons h]

/-- Turns of which none is broken all end, with a line that can be shown for the last of them. -/
theorem IsCalm.run (hcalm : IsCalm p out files d) (htask : files = [] → Tagless d.task) :
    ∃ n turned, (buildFiles p out files).run.run d = (.ok n, turned) ∧ Tagless turned.task := by
  induction files generalizing d with
  | nil => exact ⟨0, d, rfl, htask rfl⟩
  | cons file files ih =>
    rcases ends_or_breaks p out file d with ⟨failed, d₁, hfile, hd₁⟩ | hbreaks
    · obtain ⟨n, turned, hrest, hturned⟩ := ih (hcalm.tail hfile) fun _ => hd₁
      exact ⟨_, turned, run_buildFiles_cons hfile hrest, hturned⟩
    · exact absurd hbreaks (hcalm [] file files rfl)

/-- The bundling of a module fails with a failure of the library's own. -/
def Fails (p : Plugin) (s : Session) (code id : Text) : Prop :=
  ∃ e s', (bundled p code id).run.run s = (.error e, s') ∧ e.isOwn = true

/-- A turn is counted if its module fails. -/
theorem fails_of_turn {failed : Bool} {source : Path} {code : Text}
    (hreads : Reads d.session.host file source code)
    (h : (buildFile p out file).run.run d = (.ok failed, d')) :
    failed = true ↔ Fails p d.session code source.text := by
  rw [run_buildFile hreads] at h
  cases failed with
  | true =>
    obtain ⟨e, hrun, hown⟩ := failed_of_turn h
    exact ⟨fun _ => ⟨e, _, hrun, hown⟩, fun _ => rfl⟩
  | false =>
    obtain ⟨compiled, output, s, host, host', hrun, -⟩ := built_of_turn h
    refine ⟨by simp, fun ⟨e, s', hfails, _⟩ => ?_⟩
    cases hrun.symm.trans hfails

/-- Nothing is counted just if every turn was built. -/
theorem count_eq_zero_iff (h : (buildFiles p out files).run.run d = (.ok n, d')) :
    n = 0 ↔ ∀ before file after, files = before ++ file :: after →
      ∃ d₁, (buildFile p out file).run.run (reached p out before d) = (.ok false, d₁) := by
  induction files generalizing d n with
  | nil =>
    cases h
    refine ⟨fun _ before file after hfiles => ?_, fun _ => rfl⟩
    simp at hfiles
  | cons first files ih =>
    obtain ⟨failed, m, d₁, hfirst, hrest, rfl⟩ := of_buildFiles_cons h
    constructor
    · intro hn before file after hfiles
      have hbuilt : failed = false ∧ m = 0 := by
        cases failed with
        | true => simp at hn
        | false => exact ⟨rfl, hn⟩
      obtain ⟨rfl, hm⟩ := hbuilt
      cases before with
      | nil =>
        cases hfiles
        exact ⟨d₁, hfirst⟩
      | cons other before =>
        cases hfiles
        rw [reached_cons hfirst]
        exact (ih hrest).1 hm before file after rfl
    · intro hall
      obtain ⟨d₂, hbuilt⟩ := hall [] first files rfl
      cases hfirst.symm.trans hbuilt
      refine (ih hrest).2 fun before file after hfiles => ?_
      have hturn := hall (first :: before) file after (by rw [hfiles, List.cons_append])
      rwa [reached_cons hfirst] at hturn

end EmbeddedGo.Command

/-! ## §3 Outputs and their assets -/

namespace EmbeddedGo.Text

/-- What is found in a text was read somewhere in it. -/
theorem exists_of_found {α : Type} {read : Text → Option (α × Text)} {s : Text} {a : α}
    (h : .found a ∈ scan read s) : ∃ s' rest, read s' = some (a, rest) := by
  fun_induction scan read s with
  | case1 => cases h
  | case2 c s _ ih => exact ih (by simpa using h)
  | case3 c s b rest hr _ ih =>
    rcases List.mem_cons.1 h with heq | hin
    · cases heq
      exact ⟨_, rest, hr⟩
    · exact ih hin
  | case4 c s b rest hr _ ih => exact ih (by simpa using h)

end EmbeddedGo.Text

namespace EmbeddedGo.Bundle

variable {code output : Text} {s s' : Session} {c : Compiler} {buildRoot : Path} {base : Text}

theorem isQuote_of_reference? {r : Reference} {rest : Text}
    (h : reference? code = some (r, rest)) : isQuote r.quote = true := by
  unfold reference? at h
  split at h
  · cases h
  · next quote s =>
    split at h
    · next hquote =>
      split at h
      · cases h
      · split at h
        · cases h
        · cases h
        · split at h
          · cases h
            simpa [isQuote] using hquote
          · cases h
    · cases h

/-- The URL of a reference stands between quotes in the code with URLs. -/
theorem mention_of_reference (url : Text → Text) {r : Text} (hr : r ∈ references code) :
    ∃ quote, isQuote quote = true ∧ quote :: url r ++ [quote] <:+: substitute url code := by
  rw [references, List.mem_eraseDups, List.mem_map] at hr
  obtain ⟨found, hfound, rfl⟩ := hr
  obtain ⟨piece, hpiece, heq⟩ := List.mem_filterMap.1 hfound
  cases piece with
  | plain => cases heq
  | found a =>
    cases heq
    obtain ⟨s, rest, hread⟩ := Text.exists_of_found hpiece
    refine ⟨found.quote, isQuote_of_reference? hread, ?_⟩
    rw [substitute, List.flatMap_def]
    exact List.infix_of_mem_flatten (List.mem_map.2 ⟨_, hpiece, rfl⟩)

/-- An asset that was added was there or is an emission. -/
theorem mem_foldl_add {log : List Emission} {assets : Assets} {asset : Text × Bytes}
    (h : asset ∈ log.foldl Assets.add assets) :
    asset ∈ assets ∨ ∃ e ∈ log, asset = (e.asset, e.2) :=
  Table.mem_foldl_put Emission.asset Prod.snd h

/-- What was emitted has an asset under its name. -/
theorem exists_asset_of_mem {log : List Emission} {e : Emission} (he : e ∈ log) (assets : Assets) :
    ∃ content, (e.asset, content) ∈ log.foldl Assets.add assets := by
  have hsome : ((log.foldl Assets.add assets).lookup e.asset).isSome = true := by
    induction log using List.reverseRecOn with
    | nil => cases he
    | append_singleton log last ih =>
      rw [List.foldl_append, List.foldl_cons, List.foldl_nil, Assets.add, Table.lookup_put]
      split
      · rfl
      · next hne =>
        rcases List.mem_append.1 he with h | h
        · exact ih h
        · rw [List.mem_singleton.1 h, beq_self_eq_true] at hne
          exact absurd rfl hne
  obtain ⟨content, hcontent⟩ := Option.isSome_iff_exists.1 hsome
  obtain ⟨before, after, hassets, -⟩ := List.lookup_eq_some_iff.1 hcontent
  exact ⟨content, by rw [hassets]; simp⟩

/-- Each emission was made for a reference, whose URL is that of its asset. -/
theorem url_of_emission {references : List Text} {urls : List (Text × Text)}
    (hnodup : references.Nodup)
    (h : (emitAll c buildRoot base references).run.run s = (.ok urls, s')) {e : Emission}
    (he : e ∈ emissions c buildRoot references s) :
    ∃ r ∈ references, urls.lookup r = some (base ++ e.asset) := by
  induction references generalizing s urls with
  | nil => cases he
  | cons first rest ih =>
    obtain ⟨url, s₁, hfirst, hrest⟩ := run_bind_ok h
    obtain ⟨urls', s₂, hall, hend⟩ := run_bind_ok hrest
    cases hend
    rw [run_emitTarget] at hfirst
    match hbehind : (behind c buildRoot (Percent.decode first)).run.run s with
    | (.error e, s₀) =>
      rw [hbehind] at hfirst
      cases hfirst
    | (.ok content, s₀) =>
      rw [hbehind] at hfirst
      cases hfirst
      simp only [emissions, hbehind] at he
      rcases List.mem_cons.1 he with rfl | hin
      · exact ⟨first, by simp, by rw [List.lookup_cons, beq_self_eq_true]⟩
      · obtain ⟨r, hr, hlookup⟩ := ih (List.nodup_cons.1 hnodup).2 hall hin
        have hne : r ≠ first := fun heq => (List.nodup_cons.1 hnodup).1 (heq ▸ hr)
        refine ⟨r, by simp [hr], ?_⟩
        rw [List.lookup_cons, beq_false_of_ne hne]
        exact hlookup

/-- A code that was finished has the URL of an emission in the place of every reference, and for each
emission one of them. -/
theorem urls_of_finalize (h : (finalize c buildRoot base code).run.run s = (.ok output, s')) :
    ∃ url, output = substitute url code ∧
      (∀ r ∈ references code, ∃ e ∈ emissions c buildRoot (references code) s,
        url r = base ++ e.asset) ∧
      ∀ e ∈ emissions c buildRoot (references code) s, ∃ r ∈ references code,
        url r = base ++ e.asset := by
  obtain ⟨urls, s₁, hall, hend⟩ := run_bind_ok h
  cases hend
  refine ⟨fun r => (urls.lookup r).getD [], rfl, fun r hr => ?_, fun e he => ?_⟩
  · obtain ⟨-, content, -, -, -, -, hlookup, hemitted⟩ := lookup_of_emitAll hall hr
    refine ⟨_, hemitted, ?_⟩
    dsimp only
    rw [hlookup, Option.getD_some]
  · obtain ⟨r, hr, hlookup⟩ := url_of_emission (Text.nodup_eraseDups _) hall he
    refine ⟨r, hr, ?_⟩
    dsimp only
    rw [hlookup, Option.getD_some]

end EmbeddedGo.Bundle

namespace EmbeddedGo.Command

open EmbeddedGo.Bundle FileTree

variable {h : Host} {c : Common} {root out : Path} {files before after : List Text} {word file : Text}
  {p : Plugin} {d first turned : Progress} {left : Session} {n : Nat}

/-- A module that was bundled has the URL of an emission in the place of every reference, and one for
each emission. -/
theorem urls_of_bundled (hmode : p.mode = .build) {code id output : Text} {s s' : Session}
    {compiled : Bool} (hrun : (bundled p code id).run.run s = (.ok (compiled, output), s')) :
    ∃ r s₁ url, (p.transform code id).run.run s = (.ok r, s₁) ∧
      output = substitute url ((r.map (·.code)).getD code) ∧
      (∀ ref ∈ references ((r.map (·.code)).getD code), ∃ e ∈ p.moduleEmissions code id s,
        url ref = p.options.base ++ e.asset) ∧
      ∀ e ∈ p.moduleEmissions code id s, ∃ ref ∈ references ((r.map (·.code)).getD code),
        url ref = p.options.base ++ e.asset := by
  obtain ⟨r, s₁, htransform, hrest⟩ := run_bind_ok hrun
  have hrendered : ∃ s₂, (p.renderChunk ((r.map (·.code)).getD code)).run.run s₁ =
      (.ok output, s₂) := by
    cases r with
    | none =>
      obtain ⟨output', s₂, hrender, hend⟩ := run_bind_ok hrest
      cases hend
      exact ⟨_, hrender⟩
    | some r =>
      obtain ⟨output', s₂, hrender, hend⟩ := run_bind_ok hrest
      cases hend
      exact ⟨_, hrender⟩
  have hemissions : p.moduleEmissions code id s =
      emissions p.compiler p.buildRoot (references ((r.map (·.code)).getD code)) s₁ := by
    rw [Plugin.moduleEmissions, htransform]
    cases r with
    | none =>
      dsimp only
      rw [Plugin.chunkEmissions, hmode]
      rfl
    | some r =>
      dsimp only
      rw [Plugin.chunkEmissions, hmode]
      rfl
  obtain ⟨s₂, hrender⟩ := hrendered
  rw [Plugin.renderChunk, hmode] at hrender
  obtain ⟨url, houtput, hurls, hmade⟩ := urls_of_finalize hrender
  rw [hemissions]
  exact ⟨r, s₁, url, htransform, houtput, hurls, hmade⟩

/-- The URL of an asset stands in an output between quotes. -/
def RefersTo (p : Plugin) (output asset : Text) : Prop :=
  ∃ quote, isQuote quote = true ∧ quote :: (p.options.base ++ asset) ++ [quote] <:+: output

/-- What a build leaves of a module that did not fail: `code` is its source, and `s` the session that
its turn began with. -/
structure Delivered (h : Host) (p : Plugin) (out : Path) (file : Text) (s : Session) (code : Text)
    (left : Session) (output : Text) : Prop where
  written : left.host.files.entryAt (outputPlace p out h.files file) =
    some (.file (Utf8.encode output))
  /-- What stands in for the module, or the module itself, has URLs of assets for all its
  references. -/
  urls : ∃ r s₁ url, (p.transform code (moduleId h.files file)).run.run s = (.ok r, s₁) ∧
    output = substitute url ((r.map (·.code)).getD code) ∧
    ∀ ref ∈ references ((r.map (·.code)).getD code),
      ∃ e ∈ p.moduleEmissions code (moduleId h.files file) s, url ref = p.options.base ++ e.asset
  /-- All that was emitted for it is there, and is referred to. -/
  assets : ∀ e ∈ p.moduleEmissions code (moduleId h.files file) s,
    RefersTo p output e.asset ∧
    ∃ content, left.host.files.entryAt (assetPlace out e.asset) = some (.file content) ∧
      (HasEnding e.1 → content = e.2)
  /-- A module without Go and without references stays as it is. -/
  inert : IsInert code → output = code
  /-- If the compiler writes a binary whenever it succeeds, the output of a module with Go is determined
  by the module, what was written for it, and the glue. A build root that is called like the ids would
  be taken for one where the output tells of it. -/
  compiled : Directive.isPresent code = true →
    Transform.Delivers p.settings code (moduleId h.files file) s.host →
    ∃ unit wasm glue, Directive.extract code = .ok unit ∧
      (h.toolchain.answer (p.settings.slotWords (Slot.name (moduleId h.files file)))
        (Utf8.encode (Go.wrap unit))).written = some wasm ∧
      left.glue = some glue ∧
      ("@vite-golang".toList ∉ p.buildRoot.names →
        output = p.goCode h.files.here (moduleId h.files file) unit glue wasm)

/-- A turn that is built among others. -/
theorem Works.delivered (hw : Works h c root files word p out first n turned left)
    (hunlinked : Unlinked h.files p out files left.assets)
    (hseparate : Separate h.files p out files left.assets)
    (hcollision : NoCollision (buildEmissions p out files first))
    (hfiles : files = before ++ file :: after)
    (hturn : (buildFile p out file).run.run (reached p out before first) = (.ok false, d)) :
    ∃ code output, Reads (reached p out before first).session.host file
        (Path.ofNames (inputPlace h.files file)) code ∧
      Delivered h p out file (reached p out before first).session code left output := by
  obtain ⟨code, compiled, output, s, hcode, hreads, hbundled, hglue, hemitted, hentry⟩ :=
    hw.of_built hunlinked hfiles hturn
  have hin : file ∈ files := by simp [hfiles]
  obtain ⟨r, s₁, url, htransform, houtput, hurls, hmade⟩ := urls_of_bundled hw.begun.mode hbundled
  refine ⟨code, output, hreads, ?_⟩
  constructor
  case written => exact hentry (hseparate.ne_of_after hfiles) (hseparate.assets file hin)
  case urls => exact ⟨r, s₁, url, htransform, houtput, hurls⟩
  case assets =>
    intro e he
    obtain ⟨ref, href, hurl⟩ := hmade e he
    obtain ⟨quote, hquote, hinfix⟩ := mention_of_reference url href
    refine ⟨⟨quote, hquote, by rw [← hurl, houtput]; exact hinfix⟩, ?_⟩
    obtain ⟨content, hcontent⟩ := exists_asset_of_mem (hemitted e he) []
    rw [← hw.assets_eq.1] at hcontent
    have hplace := hw.entryAt_asset hunlinked hcontent
    refine ⟨content, hplace, fun hending => ?_⟩
    have hsame := hw.entryAt_emission hunlinked hcollision (hemitted e he) hending
    rw [hplace] at hsame
    simpa using hsame
  case inert =>
    intro hinert
    cases (run_bundled_inert hw.begun.mode hinert _ _).symm.trans hbundled
    rfl
  case compiled =>
    intro hpresent hdelivers
    obtain ⟨unit, wasm, url, glue, hunit, hwritten, houtput, hglueUrl, hwasmUrl, hknown, -⟩ :=
      hw.bundled_of_module hunlinked hfiles hpresent hdelivers hbundled
    refine ⟨unit, wasm, glue, hunit, hwritten, hglue glue hknown, fun hroot => ?_⟩
    rw [houtput, Plugin.substitute_wrapper hw.begun.buildRoot hroot _ _ _ hglueUrl hwasmUrl]

/-! ## §4 Failures -/

/-- What is emitted in a build is emitted in one of its turns. -/
theorem exists_turn_of_mem {e : Emission} (he : e ∈ buildEmissions p out files d) :
    ∃ before file after, files = before ++ file :: after ∧
      e ∈ turnEmissions p (reached p out before d).session file := by
  induction files generalizing d with
  | nil => cases he
  | cons first files ih =>
    rw [buildEmissions] at he
    rcases List.mem_append.1 he with hfirst | hrest
    · exact ⟨[], first, files, rfl, hfirst⟩
    · split at hrest
      · next hrun =>
        obtain ⟨before, file, after, rfl, hturn⟩ := ih hrest
        exact ⟨first :: before, file, after, rfl, by rwa [reached_cons hrun]⟩
      · cases hrest

/-- Nothing is counted just if no module fails. -/
theorem Works.eq_zero_iff (hw : Works h c root files word p out first n turned left) :
    n = 0 ↔ ∀ before file after, files = before ++ file :: after →
      ∀ source code, Reads (reached p out before first).session.host file source code →
        ¬ Fails p (reached p out before first).session code source.text := by
  rw [count_eq_zero_iff hw.turns]
  constructor
  · intro hbuilt before file after hfiles source code hreads hfails
    obtain ⟨d, hturn⟩ := hbuilt before file after hfiles
    exact absurd ((fails_of_turn hreads hturn).2 hfails) (by simp)
  · intro hnone before file after hfiles
    obtain ⟨failed, k, m, d, -, hturn, -, -⟩ := hw.turn_of_split hfiles
    obtain ⟨source, code, hreads, -⟩ := reads_of_buildFile hturn
    cases failed with
    | false => exact ⟨d, hturn⟩
    | true =>
      exact absurd ((fails_of_turn hreads hturn).1 rfl)
        (hnone before file after hfiles source code hreads)

/-- Every asset was emitted in one of the turns. -/
theorem Works.exists_turn_of_asset (hw : Works h c root files word p out first n turned left)
    {asset : Text × Bytes} (hasset : asset ∈ left.assets) :
    ∃ before file after e, files = before ++ file :: after ∧
      e ∈ turnEmissions p (reached p out before first).session file ∧ asset = (e.asset, e.2) := by
  rw [hw.assets_eq.1] at hasset
  rcases mem_foldl_add hasset with hnil | ⟨e, he, rfl⟩
  · cases hnil
  · obtain ⟨before, file, after, hfiles, hturn⟩ := exists_turn_of_mem he
    exact ⟨before, file, after, e, hfiles, hturn, rfl⟩

/-- What a build relies on, in which modules may fail. -/
structure Proceeds (h : Host) (c : Common) (root : Path) (files : List Text) (word : Text)
    (p : Plugin) (out : Path) (first : Progress) : Prop
    extends Begins h c root files word p out first where
  nonempty : files ≠ []
  /-- Files are texts when their turns come, what fails in a turn is its module, outputs can be written,
  and names have nothing in them that begins a tag. -/
  calm : IsCalm p out files first
  /-- The assets can be written behind the turns, -/
  assetsWritten : ∃ written host,
    (Plugin.writeAssets out (reached p out files first).session.assets).run.run
      (reached p out files first).session.host = (.ok written, host)
  /-- and their names can be shown. -/
  assetsShown : ∀ asset ∈ (reached p out files first).session.assets, Tagless asset.1
  /-- No link stands in the place of an output, an asset or a file of a slot, or on the way to one. -/
  unlinked : Unlinked h.files p out files (reached p out files first).session.assets
  /-- Outputs are apart from each other, from the inputs and from the assets. -/
  separate : Separate h.files p out files (reached p out files first).session.assets
  /-- Contents that are emitted are told apart by their digests. -/
  noCollision : NoCollision (buildEmissions p out files first)

/-- What a build comes to that relies on these. It ends well just if no module fails, and else with
status one. Whatever fails, the others are delivered; and a module is what it was before the build,
unless it stands in the slot of an earlier one. Every asset stands in its file, and was emitted in the
turn of one of the modules, be it one that failed later in its turn. The glue was read in one of the
turns too. -/
theorem build_survives (hp : Proceeds h c root files word p out first) :
    ∃ n last,
      (build c root files word).run.run { session := { host := h } } =
        (if n = 0 then .ok () else .error (.exit 1), last) ∧
      (n = 0 ↔ ∀ before file after, files = before ++ file :: after →
        ∀ source code, Reads (reached p out before first).session.host file source code →
          ¬ Fails p (reached p out before first).session code source.text) ∧
      (∀ before file after, files = before ++ file :: after →
        ∃ code, Reads (reached p out before first).session.host file
            (Path.ofNames (inputPlace h.files file)) code ∧
          ((∀ f ∈ before, ∀ name ∈ Transform.builtNames,
              inputPlace h.files file ≠ slotPlace p h.files f name) →
            codeAt h.files (inputPlace h.files file) = some code) ∧
          (Fails p (reached p out before first).session code (moduleId h.files file) ∨
            ∃ output, Delivered h p out file (reached p out before first).session code
              last.session output)) ∧
      (∀ glue, last.session.glue = some glue → GlueRead p out files first glue) ∧
      ∀ asset ∈ (reached p out files first).session.assets,
        last.session.host.files.entryAt (assetPlace out asset.1) = some (.file asset.2) ∧
        ∃ before file after e, files = before ++ file :: after ∧
          e ∈ turnEmissions p (reached p out before first).session file ∧
          asset = (e.asset, e.2) := by
  obtain ⟨n, turned, hturns, htask⟩ := hp.calm.run fun hnil => absurd hnil hp.nonempty
  have hreached : reached p out files first = turned := by rw [reached, hturns]
  obtain ⟨written, host, hwrite⟩ := hp.assetsWritten
  have hshown := hp.assetsShown
  have hunlinked := hp.unlinked
  have hseparate := hp.separate
  rw [hreached] at hwrite hshown hunlinked hseparate
  have hw : Works h c root files word p out first n turned { turned.session with host } :=
    { toBegins := hp.toBegins, turns := hturns, writes := ⟨written, host, hwrite, rfl⟩ }
  obtain ⟨shown, hbuild⟩ := run_build hp.begins hturns htask hwrite hshown
  refine ⟨n, _, hbuild, hw.eq_zero_iff, fun before file after hfiles => ?_, hw.assets_eq.2.2,
    fun asset hasset => ?_⟩
  · obtain ⟨failed, k, m, d, -, hturn, -, -⟩ := hw.turn_of_split hfiles
    obtain ⟨code, hreads, hcode, -⟩ := hw.areFiles.turn_of_buildFile
      (hw.begun.since.reached hw.begun.buildRoot out before) (show file ∈ files by simp [hfiles])
      hturn
    refine ⟨code, hreads, hw.codeAt_input hunlinked hseparate hfiles hcode, ?_⟩
    cases failed with
    | false =>
      obtain ⟨code', output, hreads', hdelivered⟩ :=
        hw.delivered hunlinked hseparate hp.noCollision hfiles hturn
      obtain ⟨-, rfl⟩ := hreads.unique hreads'
      exact .inr ⟨output, hdelivered⟩
    | true => exact .inl ((fails_of_turn hreads hturn).1 rfl)
  · rw [hreached] at hasset
    exact ⟨hw.entryAt_asset hunlinked hasset, hw.exists_turn_of_asset hasset⟩

/-! ## §5 A module that fails -/

/-- A turn that ends, with names that can be shown, is not broken. -/
theorem not_breaks_of_run {failed : Bool} {d' : Progress} {source : Path} {code : Text}
    (hreads : Reads d.session.host file source code)
    (hnames : ∀ n ∈ (relativeTo p.projectRoot source).names, Tagless n)
    (hrun : (buildFile p out file).run.run d = (.ok failed, d')) : ¬ Breaks p out file d := by
  rw [run_buildFile hreads] at hrun
  intro hbreaks
  cases hbreaks with
  | unread h => exact h source code hreads
  | refused hreads' hbundled hforeign =>
    obtain ⟨rfl, rfl⟩ := hreads.unique hreads'
    cases failed with
    | true =>
      obtain ⟨e, hfails, hown⟩ := failed_of_turn hrun
      cases hbundled.symm.trans hfails
      rw [hforeign] at hown
      cases hown
    | false =>
      obtain ⟨_, _, _, _, _, hbuilt, -⟩ := built_of_turn hrun
      cases hbundled.symm.trans hbuilt
  | unwritten hreads' hbundled hwrite =>
    obtain ⟨rfl, rfl⟩ := hreads.unique hreads'
    cases failed with
    | true =>
      obtain ⟨e, hfails, -⟩ := failed_of_turn hrun
      cases hbundled.symm.trans hfails
    | false =>
      obtain ⟨_, _, _, host, host', hbuilt, hmake, hput, -⟩ := built_of_turn hrun
      cases hbundled.symm.trans hbuilt
      rw [writeOutput, run_bind, hmake] at hwrite
      cases hwrite.symm.trans hput
  | unshown hreads' hshown =>
    obtain ⟨rfl, rfl⟩ := hreads.unique hreads'
    exact hshown hnames

/-- A module that refers to the glue, and then to a binary that is not there. -/
def orphanModule : Text := "\"/@vite-golang/wasm_exec.js\" \"/@vite-golang/x/main.wasm\""

/-- That module and another one, and the glue of the compiler. -/
def orphan : List (Place × Item) := [
  topFile "a.js" orphanModule,
  topFile "b.js" "B",
  (["g".toList], ⟨.directory, 0⟩),
  (["g".toList, "targets".toList], ⟨.directory, 0⟩),
  (["g".toList, "targets".toList, "wasm_exec.js".toList], ⟨.file (Utf8.encode "ab"), 0⟩)]

theorem isDesk_orphan : IsDesk orphan ["a.js", "b.js"] "d" (Path.ofNames ["d".toList]) where
  load := load_desk _
  root := root_desk _
  create := create_desk _
  started := started_desk _
  leads := leads_desk _
  isFile := by
    simp only [List.forall_mem_cons]
    exact ⟨by cbv, by cbv, by simp⟩
  shown := by decide

/-- The glue that the module leaves. -/
def orphanAssets : Assets := [("assets/wasm_exec-fb8e20fc.js".toList, Utf8.encode "ab")]

/-- The session behind its turn. -/
def orphanSession : Session where
  host := desk orphan (versionRuns ++ [Session.rootWords])
  glue := some "ab"
  assets := orphanAssets

theorem run_loadGlue_orphan :
    (Session.loadGlue Plugin.toolPlugin.compiler).run.run { host := desk orphan versionRuns } =
      (.ok "ab", { orphanSession with assets := [] }) := by
  have hstart : (desk orphan versionRuns).start? Plugin.toolPlugin.compiler.command
      Session.rootWords = .ok "/t".toList := by cbv
  have hsaid : Compiler.said? (Utf8.encode "/g") = some "/g".toList := by cbv
  have hread : (desk orphan versionRuns).files.read (Session.gluePath (Path.ofText "/g")) =
      .ok (Utf8.encode "ab") := by cbv
  exact Session.run_loadGlue rfl hstart rfl hsaid hread (by cbv)

theorem references_orphan : references orphanModule =
    [VirtualId.glue, VirtualId.artifact "x" Wrapper.wasmName] := by cbv

/-- What the failure says. -/
def orphanError : Error :=
  .artifactNotFound (VirtualId.artifact "x" Wrapper.wasmName) (some "/b/x/main.wasm")

/-- The glue stands behind its id, and nothing behind the other one. -/
theorem behind_orphan :
    (behind Plugin.toolPlugin.compiler Plugin.toolPlugin.buildRoot VirtualId.glue).run.run
        { host := desk orphan versionRuns } =
      (.ok (Utf8.encode "ab"), { orphanSession with assets := [] }) ∧
    (behind Plugin.toolPlugin.compiler Plugin.toolPlugin.buildRoot
        (VirtualId.artifact "x" Wrapper.wasmName)).run.run orphanSession =
      (.error orphanError, orphanSession) := by
  constructor
  · rw [behind, if_pos rfl, run_bind, run_loadGlue_orphan]
    rfl
  · have hpath : (Plugin.toolPlugin.buildRoot.child "x").child Wrapper.wasmName =
        Path.ofNames ["b".toList, "x".toList, "main.wasm".toList] := by decide
    have hresolve := VirtualId.resolve_artifact Plugin.toolPlugin.buildRoot
      (show Path.IsPlain "x" by decide) Transform.isPlain_wasmName (by decide)
    have hfile : orphanSession.host.files.isFile
        (Path.ofNames ["b".toList, "x".toList, "main.wasm".toList]) = .ok false := by cbv
    rw [behind, if_neg (artifact_ne_glue "x" Wrapper.wasmName), Session.run_act,
      Session.readArtifact, run_bind, Session.artifactPath, hresolve, hpath]
    dsimp only
    rw [run_bind, Host.run_look, hfile]
    rfl

theorem addEmission_orphan :
    addEmission { orphanSession with assets := [] } (VirtualId.glueName, Utf8.encode "ab") =
      orphanSession := by
  rw [addEmission, Assets.add, Emission.asset, assetName_glueName, glueAsset_go]
  rfl

theorem decode_orphan : Percent.decode VirtualId.glue = VirtualId.glue ∧
    Percent.decode (VirtualId.artifact "x" Wrapper.wasmName) =
      VirtualId.artifact "x" Wrapper.wasmName :=
  ⟨Percent.decode_of_not_mem (by decide), Percent.decode_of_not_mem (by decide)⟩

theorem not_present_orphan : Directive.isPresent orphanModule = false := by cbv

/-- The glue is emitted before the failure, and stays. -/
theorem run_bundled_orphan (id : Text) :
    (bundled Plugin.toolPlugin orphanModule id).run.run { host := desk orphan versionRuns } =
      (.error orphanError, orphanSession) := by
  have hname : emittedName VirtualId.glue = VirtualId.glueName := if_pos rfl
  rw [bundled, run_bind, run_transform_absent not_present_orphan]
  dsimp only
  rw [run_bind, Plugin.renderChunk, show Plugin.toolPlugin.mode = .build from rfl]
  dsimp only
  rw [finalize, run_bind, references_orphan, emitAll, run_bind, decode_orphan.1, run_emitTarget,
    behind_orphan.1, hname]
  dsimp only
  rw [addEmission_orphan, run_bind, emitAll, run_bind, decode_orphan.2, run_emitTarget,
    behind_orphan.2]

theorem emissions_orphan (id : Text) :
    Plugin.toolPlugin.moduleEmissions orphanModule id { host := desk orphan versionRuns } =
      [(VirtualId.glueName, Utf8.encode "ab")] := by
  have hname : emittedName VirtualId.glue = VirtualId.glueName := if_pos rfl
  rw [Plugin.moduleEmissions, run_transform_absent not_present_orphan]
  dsimp only
  rw [Plugin.chunkEmissions, show Plugin.toolPlugin.mode = .build from rfl]
  dsimp only
  rw [references_orphan, emissions, decode_orphan.1, behind_orphan.1, hname]
  dsimp only
  rw [addEmission_orphan, emissions, decode_orphan.2, behind_orphan.2]

/-- The host behind both turns. -/
def orphanDesk (more : List (Place × Item)) : Host :=
  desk (orphan ++ bundleItem "b.js" (.file (Utf8.encode "B")) :: more)
    (versionRuns ++ [Session.rootWords])

theorem reads_orphan :
    Reads (desk orphan versionRuns) "a.js" (Path.ofNames ["a.js".toList]) orphanModule ∧
      Reads orphanSession.host "b.js" (Path.ofNames ["b.js".toList]) "B" :=
  ⟨reads_of_read (by cbv) (by cbv) (by cbv), reads_of_read (by cbv) (by cbv) (by cbv)⟩

theorem run_writeOutput_orphan :
    (writeOutput (outputPath Plugin.toolPlugin (Path.ofNames ["d".toList])
        (Path.ofNames ["b.js".toList])) "B").run.run orphanSession.host = (.ok (), orphanDesk []) := by
  unfold orphanSession orphanDesk orphan
  generalize Utf8.encode orphanModule = content
  cbv

/-- The turns: the first module fails, and the other is built. -/
theorem turns_orphan {first : Progress} (hfirst : first.session = { host := desk orphan versionRuns }) :
    ∃ second last,
      (buildFile Plugin.toolPlugin (Path.ofNames ["d".toList]) "a.js").run.run first =
        (.ok true, second) ∧ second.session = orphanSession ∧
      (buildFile Plugin.toolPlugin (Path.ofNames ["d".toList]) "b.js").run.run second =
        (.ok false, last) ∧ last.session = { orphanSession with host := orphanDesk [] } := by
  obtain ⟨session, shown, task, served⟩ := first
  cases hfirst
  have hnames : ∀ n ∈ (relativeTo Plugin.toolPlugin.projectRoot
      (Path.ofNames ["a.js".toList])).names, Tagless n := by decide
  obtain ⟨shown₁, hturn⟩ := run_turn_failed (p := Plugin.toolPlugin) (Path.ofNames ["d".toList])
    (d := { session := { host := desk orphan versionRuns }
            shown
            task := taskFor Plugin.toolPlugin (Path.ofNames ["a.js".toList])
            served })
    (run_bundled_orphan _) rfl hnames
  obtain ⟨shown₂, hbuilt⟩ := run_buildFile_inert (p := Plugin.toolPlugin) rfl isInert_B
    (d := { session := orphanSession
            shown := shown₁
            task := taskFor Plugin.toolPlugin (Path.ofNames ["a.js".toList])
            served })
    reads_orphan.2 run_writeOutput_orphan (by decide)
  exact ⟨_, _, (run_buildFile reads_orphan.1).trans hturn, rfl, hbuilt, rfl⟩

theorem inputPlace_orphan :
    inputPlace (desk orphan []).files "a.js" = ["a.js".toList] ∧
      inputPlace (desk orphan []).files "b.js" = ["b.js".toList] :=
  ⟨by cbv, by cbv⟩

theorem outputPlace_orphan :
    outputPlace Plugin.toolPlugin (Path.ofNames ["d".toList]) (desk orphan []).files "a.js" =
        ["d".toList, "a.js".toList] ∧
      outputPlace Plugin.toolPlugin (Path.ofNames ["d".toList]) (desk orphan []).files "b.js" =
        ["d".toList, "b.js".toList] := by
  rw [outputPlace, outputPlace, inputPlace_orphan.1, inputPlace_orphan.2]
  exact ⟨by decide, by decide⟩

theorem unlinked_orphan :
    Unlinked (desk orphan []).files Plugin.toolPlugin (Path.ofNames ["d".toList]) ["a.js", "b.js"]
      orphanAssets := by
  have hall : ∀ q, (desk orphan []).files.IsStraight q :=
    isStraight_of_items (by simp [desk, orphan, topFile])
  exact ⟨fun _ _ => hall _, fun _ _ _ _ => hall _, fun _ _ => hall _⟩

theorem separate_orphan :
    Separate (desk orphan []).files Plugin.toolPlugin (Path.ofNames ["d".toList]) ["a.js", "b.js"]
      orphanAssets := by
  constructor
  · rw [List.map_cons, List.map_cons, outputPlace_orphan.1, outputPlace_orphan.2]
    decide
  · simp only [List.forall_mem_cons, outputPlace_orphan, inputPlace_orphan]
    decide
  · simp only [List.forall_mem_cons, outputPlace_orphan]
    decide

theorem run_writeAssets_orphan :
    ∃ written host, (Plugin.writeAssets (Path.ofNames ["d".toList]) orphanAssets).run.run
      (orphanDesk []) = (.ok written, host) := by
  unfold orphanDesk orphan
  generalize Utf8.encode orphanModule = content
  exact ⟨_, _, by cbv⟩

/-- A build of both relies on nothing that is not so: what it has done before them, after the first of
them and after both. -/
theorem proceeds_orphan :
    ∃ first,
      Proceeds (desk orphan []) deskCommon (Path.ofNames []) ["a.js", "b.js"] "d" Plugin.toolPlugin
        (Path.ofNames ["d".toList]) first ∧
      first.session = { host := desk orphan versionRuns } ∧
      (reached Plugin.toolPlugin (Path.ofNames ["d".toList]) ["a.js"] first).session =
        orphanSession ∧
      (reached Plugin.toolPlugin (Path.ofNames ["d".toList]) ["a.js", "b.js"] first).session.assets =
        orphanAssets := by
  obtain ⟨shown, hbegins⟩ := isDesk_orphan.begins
  obtain ⟨first, hfirst⟩ : ∃ first : Progress,
      first = { session := { host := desk orphan versionRuns }, shown } := ⟨_, rfl⟩
  have hsession : first.session = { host := desk orphan versionRuns } := by rw [hfirst]
  rw [← hfirst] at hbegins
  obtain ⟨second, third, hfails, hsecond, hbuilt, hthird⟩ := turns_orphan hsession
  have hreached : reached Plugin.toolPlugin (Path.ofNames ["d".toList]) ["a.js"] first = second := by
    rw [reached_cons hfails]
    rfl
  have hlast : reached Plugin.toolPlugin (Path.ofNames ["d".toList]) ["a.js", "b.js"] first =
      third := by
    rw [reached_cons hfails, reached_cons hbuilt]
    rfl
  have hreadsA : Reads first.session.host "a.js" (Path.ofNames ["a.js".toList]) orphanModule := by
    rw [hsession]
    exact reads_orphan.1
  have hreadsB : Reads second.session.host "b.js" (Path.ofNames ["b.js".toList]) "B" := by
    rw [hsecond]
    exact reads_orphan.2
  have hcalm : IsCalm Plugin.toolPlugin (Path.ofNames ["d".toList]) ["a.js", "b.js"] first := by
    intro before file after hfiles
    rcases split_pair hfiles with ⟨rfl, rfl⟩ | ⟨rfl, rfl⟩
    · exact not_breaks_of_run hreadsA (by decide) hfails
    · rw [hreached]
      exact not_breaks_of_run hreadsB (by decide) hbuilt
  have hemissions : buildEmissions Plugin.toolPlugin (Path.ofNames ["d".toList]) ["a.js", "b.js"]
      first = [(VirtualId.glueName, Utf8.encode "ab")] := by
    rw [buildEmissions, turnEmissions_of_reads hreadsA, hsession, emissions_orphan, hfails]
    dsimp only
    rw [buildEmissions, turnEmissions_of_reads hreadsB, moduleEmissions_inert isInert_B, hbuilt]
    rfl
  have hcollision : NoCollision [(VirtualId.glueName, Utf8.encode "ab")] := by
    intro e he e' he' _
    rw [List.mem_singleton.1 he, List.mem_singleton.1 he']
  have hassets : (reached Plugin.toolPlugin (Path.ofNames ["d".toList]) ["a.js", "b.js"]
      first).session.assets = orphanAssets := by rw [hlast, hthird]; rfl
  refine ⟨first, ?_, hsession, by rw [hreached, hsecond], hassets⟩
  exact {
    toBegins := hbegins
    nonempty := by simp
    calm := hcalm
    assetsWritten := by
      rw [hassets, hlast, hthird]
      exact run_writeAssets_orphan
    assetsShown := by
      rw [hassets]
      decide
    unlinked := hassets ▸ unlinked_orphan
    separate := hassets ▸ separate_orphan
    noCollision := hemissions ▸ hcollision }

/-- The other module has its output, and the build ends with status one. The glue is there, which no
output refers to. -/
theorem build_survives_orphan :
    ∃ first last,
      Proceeds (desk orphan []) deskCommon (Path.ofNames []) ["a.js", "b.js"] "d" Plugin.toolPlugin
        (Path.ofNames ["d".toList]) first ∧
      (build deskCommon (Path.ofNames []) ["a.js", "b.js"] "d").run.run
        { session := { host := desk orphan [] } } = (.error (.exit 1), last) ∧
      last.session.host.files.entryAt ["d".toList, "b.js".toList] =
        some (.file (Utf8.encode "B")) ∧
      last.session.host.files.entryAt
          ["d".toList, "assets".toList, "wasm_exec-fb8e20fc.js".toList] =
        some (.file (Utf8.encode "ab")) ∧
      ¬ RefersTo Plugin.toolPlugin "B" "assets/wasm_exec-fb8e20fc.js" := by
  obtain ⟨first, hproceeds, hfirst, hsecond, hassets⟩ := proceeds_orphan
  obtain ⟨n, last, hbuild, hcount, hturns, -, hplaced⟩ := build_survives hproceeds
  have hreadsA : Reads first.session.host "a.js" (Path.ofNames ["a.js".toList]) orphanModule := by
    rw [hfirst]
    exact reads_orphan.1
  have hn : n ≠ 0 := fun hzero => hcount.1 hzero [] "a.js" ["b.js"] rfl _ _ hreadsA
    ⟨orphanError, orphanSession, by
      show (bundled _ _ _).run.run first.session = _
      rw [hfirst]
      exact run_bundled_orphan _, rfl⟩
  rw [if_neg hn] at hbuild
  refine ⟨first, last, hproceeds, hbuild, ?_, ?_, ?_⟩
  · obtain ⟨code, hreads, -, hfailed | ⟨output, hdelivered⟩⟩ := hturns ["a.js"] "b.js" [] rfl
    · rw [hsecond] at hreads hfailed
      obtain ⟨-, rfl⟩ := reads_orphan.2.unique hreads
      obtain ⟨e, s', hrun, -⟩ := hfailed
      cases (run_bundled_inert rfl isInert_B _ _).symm.trans hrun
    · rw [hsecond] at hreads
      obtain ⟨-, rfl⟩ := reads_orphan.2.unique hreads
      rw [← hdelivered.inert isInert_B, ← outputPlace_orphan.2]
      exact hdelivered.written
  · rw [hassets] at hplaced
    exact (hplaced _ (List.mem_singleton_self _)).1
  · rintro ⟨quote, -, hinfix⟩
    have hlength := hinfix.length_le
    simp only [List.length_append, List.length_cons] at hlength
    have hlong : 1 < ("assets/wasm_exec-fb8e20fc.js" : Text).length := by decide
    have hone : ("B" : Text).length = 1 := rfl
    omega

/-! ## §6 A file that is no text -/

/-- A file whose only byte begins no character, and a module. -/
def torn : List (Place × Item) := [(["a.js".toList], ⟨.file [0xFF], 0⟩), topFile "b.js" "B"]

theorem isDesk_torn : IsDesk torn ["a.js", "b.js"] "d" (Path.ofNames ["d".toList]) where
  load := load_desk _
  root := root_desk _
  create := create_desk _
  started := started_desk _
  leads := leads_desk _
  isFile := by
    simp only [List.forall_mem_cons]
    exact ⟨by cbv, by cbv, by simp⟩
  shown := by decide

theorem isDesk_torn_alone : IsDesk torn ["b.js"] "d" (Path.ofNames ["d".toList]) :=
  { isDesk_torn with isFile := fun file hfile => isDesk_torn.isFile file (by simp_all) }

theorem not_reads_torn (source : Path) (code : Text) :
    ¬ Reads (desk torn versionRuns) "a.js" source code := by
  rintro ⟨hreal, hread⟩
  have hsource : Host.realPath (desk torn versionRuns).files (Path.ofText "a.js") =
      .ok (Path.ofNames ["a.js".toList]) := by cbv
  obtain rfl := Except.ok.inj (hreal.symm.trans hsource)
  have hbytes : (desk torn versionRuns).files.read (Path.ofNames ["a.js".toList]) = .ok [0xFF] := by
    cbv
  rw [Host.run_readText, hbytes] at hread
  have hnone : Utf8.decode? [0xFF] = none := by cbv
  dsimp only at hread
  rw [hnone] at hread
  cases hread

theorem reads_torn :
    Reads (desk torn versionRuns) "b.js" (Path.ofNames ["b.js".toList]) "B" :=
  reads_of_read (by cbv) (by cbv) (by cbv)

theorem run_writeOutput_torn :
    ∃ host, (writeOutput (outputPath Plugin.toolPlugin (Path.ofNames ["d".toList])
        (Path.ofNames ["b.js".toList])) "B").run.run (desk torn versionRuns) = (.ok (), host) ∧
      host.files.entryAt ["d".toList, "b.js".toList] = some (.file (Utf8.encode "B")) :=
  ⟨_, by cbv, by cbv⟩

/-- Behind a file that is no text a module has no output, though it has one when it is built alone. -/
theorem build_torn :
    ∃ first stop last,
      Begins (desk torn []) deskCommon (Path.ofNames []) ["a.js", "b.js"] "d" Plugin.toolPlugin
        (Path.ofNames ["d".toList]) first ∧
      (build deskCommon (Path.ofNames []) ["a.js", "b.js"] "d").run.run
        { session := { host := desk torn [] } } = (.error stop, last) ∧
      last.session.host.files.entryAt ["d".toList, "b.js".toList] = none ∧
      ∃ alone, (build deskCommon (Path.ofNames []) ["b.js"] "d").run.run
          { session := { host := desk torn [] } } = (.ok (), alone) ∧
        alone.session.host.files.entryAt ["d".toList, "b.js".toList] =
          some (.file (Utf8.encode "B")) := by
  obtain ⟨shown, hbegins⟩ := isDesk_torn.begins
  have hfiles : ["a.js".toList, "b.js".toList] = [] ++ "a.js".toList :: ["b.js".toList] := rfl
  obtain ⟨stop, last, hbuild, hlast⟩ := build_ends_unread hbegins hfiles rfl not_reads_torn
  refine ⟨_, stop, last, hbegins, hbuild, by rw [hlast]; cbv, ?_⟩
  obtain ⟨shown', halone⟩ := isDesk_torn_alone.begins
  obtain ⟨host, hwrite, hentry⟩ := run_writeOutput_torn
  have hnames : ∀ n ∈ (relativeTo Plugin.toolPlugin.projectRoot
      (Path.ofNames ["b.js".toList])).names, Tagless n := by decide
  obtain ⟨shown₁, hturn⟩ := run_buildFile_inert (p := Plugin.toolPlugin) rfl isInert_B
    (d := { session := { host := desk torn versionRuns }, shown := shown' })
    reads_torn hwrite hnames
  have hturns : (buildFiles Plugin.toolPlugin (Path.ofNames ["d".toList]) ["b.js"]).run.run
      { session := { host := desk torn versionRuns }, shown := shown' } =
        (.ok 0, { session := { host := host }, shown := shown₁,
                  task := taskFor Plugin.toolPlugin (Path.ofNames ["b.js".toList]) }) :=
    run_buildFiles_cons hturn rfl
  obtain ⟨shown₂, hend⟩ := run_build halone.begins hturns
    (tagless_taskFor Plugin.toolPlugin hnames) rfl (by simp)
  exact ⟨_, hend, hentry⟩

end EmbeddedGo.Command
