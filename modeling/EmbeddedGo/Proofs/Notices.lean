/-
EmbeddedGo.Proofs.Notices — a notice of a changed file asks for a reload exactly if the file is compiled.

Whether a changed file asks for a reload is decided in one place, and whether a requested file is
compiled in another: the first looks at the name and the text of the file, the second has it
transformed. They agree on every file of the project, whatever links lead to it, as long as its path
is one that the server looks for in the project (`IsProjectPath`, `respond_notice`). The paths of
the server itself and the pages of the web framework are not: behind a link of such a name a module
asks for reloads, and a request for the name never has it compiled (`respond_notice_health`).

  §1 paths of the project
  §2 what a request for a script comes to
  §3 what a notice comes to
  §4 the clients
  §5 both requests
-/
import EmbeddedGo.Proofs.Delivery
import EmbeddedGo.Proofs.ServedArtifact

namespace EmbeddedGo

namespace Server

open Reload

variable {plugin : Plugin} {s : ServerState} {p : Path} {wanted : Text}

/-! ## §1 Paths -/

/-- The paths of one line that are seen from the project, except those that are answered in another
way: what begins like a virtual id, the two paths `health` and `__use-golang/events` of the server, and
the four pages of the web framework, `openapi.json`, `docs`, `docs/oauth2-redirect` and `redoc`. -/
structure IsProjectPath (wanted : Text) : Prop where
  nonempty : wanted ≠ []
  relative : wanted.head? ≠ some '/'
  oneLine : '\n' ∉ wanted
  ordinary : ¬ "@vite-golang/".toList <+: wanted
  notHealth : wanted ≠ "health".toList
  notEvents : wanted ≠ "__use-golang/events".toList
  notPage : ∀ page : Page, '/' :: wanted ≠ page.path

theorem IsProjectPath.withoutFinalBreak (h : IsProjectPath wanted) :
    withoutFinalBreak ('/' :: wanted) = '/' :: wanted := by
  obtain ⟨init, last, hlast⟩ := (List.eq_nil_or_concat' ('/' :: wanted)).resolve_left (by simp)
  have hne : last ≠ '\n' := by
    rintro rfl
    have hmem : '\n' ∈ '/' :: wanted := hlast ▸ List.mem_append_right init List.mem_cons_self
    exact h.oneLine ((List.mem_cons.1 hmem).resolve_left (by decide))
  rw [hlast, withoutFinalBreak_append, if_neg hne]

theorem IsProjectPath.isVirtual (h : IsProjectPath wanted) :
    VirtualId.isVirtual ('/' :: wanted) = false := by
  rw [← Bool.not_eq_true, VirtualId.isVirtual, Text.startsWith_iff]
  intro hprefix
  have hstart : VirtualId.start = '/' :: "@vite-golang/".toList := by decide
  rw [hstart, List.cons_prefix_cons] at hprefix
  exact h.ordinary hprefix.2

/-- A path of the project is looked for there. -/
theorem IsProjectPath.route? (h : IsProjectPath wanted) :
    route? ('/' :: wanted) = some (.file wanted) := by
  have hfixed : '/' :: wanted ∉ fixedRoutes.map Prod.fst := by
    have hglue : '/' :: wanted ≠ VirtualId.glue := by
      intro heq
      have hvirtual := h.isVirtual
      rw [heq] at hvirtual
      exact absurd hvirtual (by decide)
    simp only [fixedRoutes, List.map_append, List.map_cons, List.map_nil, List.mem_append,
      List.mem_cons, List.not_mem_nil, or_false, not_or]
    exact ⟨⟨h.notPage _, h.notPage _, h.notPage _, h.notPage _⟩,
      fun heq => h.notHealth (List.cons.inj heq).2, hglue,
      fun heq => h.notEvents (List.cons.inj heq).2⟩
  have hbreak : Reload.withoutFinalBreak wanted = wanted := by
    have hslash := h.withoutFinalBreak
    rw [withoutFinalBreak_cons _ h.nonempty] at hslash
    exact (List.cons.inj hslash).2
  have hline : wanted.contains '\n' = false := by simpa using h.oneLine
  rw [route?_of_not_fixed (by rwa [h.withoutFinalBreak]), requestedFile?, hbreak, hline]
  rfl

theorem IsProjectPath.wantedFile (h : IsProjectPath wanted) : wantedFile wanted = wanted := by
  have hasked : asked wanted = wanted := by
    obtain ⟨c, rest, rfl⟩ := List.exists_cons_of_ne_nil h.nonempty
    have hc : c ≠ '/' := fun heq => h.relative (congrArg some heq)
    exact List.dropWhile_cons_of_neg (by simpa using hc)
  rw [wantedFile_of_asked (by rw [hasked]; exact h.nonempty), hasked]

/-! ## §2 Requests for files -/

/-- The answer to a request that has the script at a path transformed, with or without success, and the
state behind it. -/
inductive Compiles (plugin : Plugin) (s : ServerState) (p : Path) : Response × ServerState → Prop where
  | sent {code : Text} {result : Transform.Result} {host : Host}
    (hread : (Host.readText p).run.run s.session.host = (.ok code, s.session.host))
    (hrun : (Transform.transform plugin.settings code p.text).run.run s.session.host =
      (.ok (some result), host)) :
    Compiles plugin s p (.script result.code, withHost s host)
  | refused {code : Text} {e : Error} {host : Host}
    (hread : (Host.readText p).run.run s.session.host = (.ok code, s.session.host))
    (hrun : (Transform.transform plugin.settings code p.text).run.run s.session.host = (.error e, host)) :
    Compiles plugin s p (.refusal 500 e.message, withHost s host)

/-- The answer to a request that sends the file at a path as it is, and the state, which stays. -/
inductive SendsFile (s : ServerState) (p : Path) : Response × ServerState → Prop where
  | script {code : Text} (hscript : isScript p.name = true)
    (hread : (Host.readText p).run.run s.session.host = (.ok code, s.session.host)) :
    SendsFile s p (.script code, s)
  | file {content : Bytes} (hscript : isScript p.name = false)
    (hread : (files s).read p = .ok content) :
    SendsFile s p (.file (MediaType.ofName p.name) content, s)

/-- What is compiled is a script, or the request failed. -/
theorem Compiles.script_or_failed {outcome : Response × ServerState} (h : Compiles plugin s p outcome) :
    outcome.1.contentType = some Response.scriptType ∨ outcome.1.status = 500 := by
  cases h with
  | sent _ _ => exact .inl rfl
  | refused _ _ => exact .inr rfl

/-- A transform that fails names its module. -/
theorem exists_cause {settings : Transform.Settings} {code id : Text} {h h' : Host} {e : Error}
    (hrun : (Transform.transform settings code id).run.run h = (.error e, h')) :
    ∃ cause, e = .transform id cause := by
  unfold Transform.transform at hrun
  split at hrun
  · rw [run_tryCatch] at hrun
    split at hrun
    · cases hrun
    · next cause h₁ _ =>
      cases hrun
      exact ⟨cause, rfl⟩
  · cases hrun

/-- What is compiled is not sent as it is: the compiler ran, or the request failed. -/
theorem Compiles.not_sendsFile {outcome : Response × ServerState} (h : Compiles plugin s p outcome) :
    ¬ SendsFile s p outcome := by
  intro hsends
  have hstate : outcome.2 = s := by cases hsends <;> rfl
  have hstatus : outcome.1.status = 200 := by cases hsends <;> rfl
  cases h with
  | @sent code result host hread hrun =>
    have hruns := (Transform.runs_of_transform hrun).2.2
    have hhost : host = s.session.host := congrArg (fun s : ServerState => s.session.host) hstate
    rw [hhost] at hruns
    simp at hruns
  | refused _ _ =>
    have hfailed : (500 : Nat) = 200 := hstatus
    exact absurd hfailed (by decide)

/-- The path leads to a file in the project, which can be read as a text if it is a script. -/
structure IsFileAt (plugin : Plugin) (s : ServerState) (wanted : Text) (p : Path) : Prop where
  real : (files s).realPath (plugin.projectRoot.child wanted) = .ok p
  inside : isInside plugin.projectRoot p = true
  found : (files s).isFile p = .ok true
  read : isScript p.name = true →
    ∃ code, (Host.readText p).run.run s.session.host = (.ok code, s.session.host)

/-- Whether the file at a path is a script with the directive. -/
inductive AsksForReload (s : ServerState) (p : Path) : Bool → Prop where
  | script {code : Text} (hscript : isScript p.name = true)
    (hread : (Host.readText p).run.run s.session.host = (.ok code, s.session.host)) :
    AsksForReload s p (Directive.isPresent code)
  | other (hscript : isScript p.name = false) : AsksForReload s p false

theorem IsFileAt.exists_asks (h : IsFileAt plugin s wanted p) : ∃ asks, AsksForReload s p asks := by
  cases hscript : isScript p.name with
  | false => exact ⟨false, .other hscript⟩
  | true =>
    obtain ⟨code, hread⟩ := h.read hscript
    exact ⟨_, .script hscript hread⟩

/-- A script with the directive is compiled, and other files are sent as they are. -/
theorem serveAt_cases {asks : Bool} (hasks : AsksForReload s p asks)
    (hfile : (files s).isFile p = .ok true) :
    (asks = true → Compiles plugin s p (answer ((serveAt plugin wanted p).run.run s).1,
        ((serveAt plugin wanted p).run.run s).2)) ∧
      (asks = false → SendsFile s p (answer ((serveAt plugin wanted p).run.run s).1,
        ((serveAt plugin wanted p).run.run s).2)) := by
  cases hasks with
  | @script code hscript hread =>
    rw [run_serveAt_script hfile hscript, run_serveScript hread]
    constructor
    · intro hpresent
      rcases htransform : (Transform.transform plugin.settings code p.text).run.run s.session.host with
        ⟨e | result, host⟩
      · obtain ⟨cause, rfl⟩ := exists_cause htransform
        exact .refused hread htransform
      · cases result with
        | none => exact absurd htransform (Transform.run_transform_ne_none hpresent)
        | some result => exact .sent hread htransform
    · intro habsent
      rw [Transform.transform_of_not_present habsent]
      exact .script hscript hread
  | other hscript =>
    refine ⟨fun h => (Bool.false_ne_true h).elim, fun _ => ?_⟩
    obtain ⟨place, content, modified, hlocate⟩ := FileTree.isFile_eq_true_iff.1 hfile
    have hread : (files s).read p = .ok content := FileTree.read_eq_ok_iff.2 ⟨place, modified, hlocate⟩
    rw [run_serveAt_file hread hscript]
    exact .file hscript hread

/-- A request for a file of the project is answered at its path. -/
theorem run_respond_path (hwanted : IsProjectPath wanted) (hfile : IsFileAt plugin s wanted p) :
    (respond plugin { path := '/' :: wanted }).run s =
      (answer ((serveAt plugin wanted p).run.run s).1, ((serveAt plugin wanted p).run.run s).2) := by
  have hartifact : (plugin.servesArtifacts && isArtifact ('/' :: wanted)) = false := by
    rw [isArtifact, hwanted.isVirtual, Bool.false_and, Bool.and_false]
  have hreal : (files s).realPath (plugin.projectRoot.child (Server.wantedFile wanted)) = .ok p := by
    rw [hwanted.wantedFile]
    exact hfile.real
  rw [run_respond { path := '/' :: wanted } rfl hwanted.route? hartifact,
    run_serveFile_of_not_directory hreal hfile.inside
      (.inl (FileTree.isDirectory_of_isFile hfile.found))]

/-! ## §3 Notices -/

theorem run_isAskedBy {asks : Bool} (hasks : AsksForReload s p asks) :
    (isAskedBy p).run.run s.session.host = (.ok asks, s.session.host) := by
  cases hasks with
  | script hscript hread =>
    rw [isAskedBy, if_pos hscript, run_bind, hread]
    rfl
  | other hscript =>
    rw [isAskedBy, hscript]
    rfl

/-- The channel behind a notice. -/
def noticed (asks : Bool) (c : Channel Payload) : Channel Payload :=
  if asks then c.send .fullReload else c

/-- A notice of a file in the project is answered, and sends a reload if the file asks for one. -/
theorem run_noticeChange {body : Bytes} {asks : Bool} (hbody : noticedFile body = .ok wanted)
    (hfile : IsFileAt plugin s wanted p) (hasks : AsksForReload s p asks) :
    (noticeChange plugin body).run.run s =
      (.ok (.ofObject [("file", .text p.text), ("reloaded", .bool asks),
        ("clients", .int (if asks then s.channel.subscriberCount else 0 : Nat))]),
        { s with channel := noticed asks s.channel }) := by
  have hnamed : (ExceptT.mk (pure (noticedFile body)) : Handler Text).run.run s = (.ok wanted, s) := by
    rw [hbody]
    rfl
  rw [noticeChange, run_bind, hnamed]
  dsimp only
  rw [run_bind, run_projectFile, Host.realPath_eq_ok_iff.2 hfile.real]
  dsimp only
  rw [if_pos hfile.inside]
  dsimp only
  rw [run_bind, run_sure_look, show s.session.host.files.isFile p = _ from hfile.found]
  dsimp only
  rw [if_pos rfl, run_bind, run_sure, run_isAskedBy hasks]
  cases asks <;> rfl

theorem run_respond_notice {body : Bytes} {asks : Bool} (hbody : noticedFile body = .ok wanted)
    (hfile : IsFileAt plugin s wanted p) (hasks : AsksForReload s p asks) :
    (respond plugin { method := "POST", path := noticePath, body }).run s =
      (.ofObject [("file", .text p.text), ("reloaded", .bool asks),
        ("clients", .int (if asks then s.channel.subscriberCount else 0 : Nat))],
        { s with channel := noticed asks s.channel }) := by
  have hhandler : handler plugin { method := "POST", path := noticePath, body } =
      noticeChange plugin body := by
    have hartifact : isArtifact noticePath = false := by decide
    have hroute : route? noticePath = some (.file "__use-golang/hot-update") := by rfl
    rw [handler, hartifact, Bool.and_false, if_neg Bool.false_ne_true, serve, hroute]
    have hpost : withoutFinalBreak noticePath = noticePath := by decide
    exact if_pos ⟨rfl, hpost⟩
  rw [run_respond_handler, hhandler, run_noticeChange hbody hfile hasks]
  rfl

end Server

/-! ## §4 Clients -/

namespace Reload.Channel

variable {α : Type} {c : Channel α} {history : List (Event α)}

/-- What is sent waits at the end of every queue that is subscribed, and of no other. -/
theorem Agrees.pending_send (hagrees : Agrees history c) (payload : α) (queue : Nat) :
    (c.send payload).pending queue =
      c.pending queue ++ if isSubscribed queue history then [payload] else [] := by
  have hsubscribed := hagrees.subscribed queue
  have hlt := hagrees.lt_length queue
  simp only [pending, send, List.getElem?_mapIdx]
  by_cases hin : queue ∈ c.subscribed
  · rw [List.getElem?_eq_getElem (hlt hin), if_pos (hsubscribed.1 hin)]
    simp [hin]
  · rw [if_neg (mt hsubscribed.2 hin), List.append_nil]
    cases c.queues[queue]? with
    | none => rfl
    | some q => simp [hin]

/-- Sending takes nothing from a queue. -/
theorem delivered_send (c : Channel α) (payload : α) (queue : Nat) :
    (c.send payload).delivered queue = c.delivered queue := by
  simp only [delivered, send, List.getElem?_mapIdx]
  cases c.queues[queue]? with
  | none => rfl
  | some q =>
    by_cases hin : queue ∈ c.subscribed <;> simp [hin]

end Reload.Channel

namespace Server

open Reload

variable {plugin : Plugin} {s : ServerState} {p : Path} {wanted : Text}

/-! ## §5 Both requests -/

/-- A notice of a file of the project says that a reload was sent exactly if a request for the file has it
compiled, and otherwise the file is sent as it is. A reload is one message behind what waits in each queue
that is subscribed, which are counted; without one nothing changes. -/
theorem respond_notice {ops : List (Op Payload)} (hchannel : s.channel = (Reload.run ops).2)
    (hwanted : IsProjectPath wanted) (hfile : IsFileAt plugin s wanted p) {body : Bytes}
    (hbody : noticedFile body = .ok wanted) :
    ∃ (reloaded : Bool) (clients : Nat) (channel : Channel Payload),
      (respond plugin { method := "POST", path := noticePath, body }).run s =
        (.ofObject [("file", .text p.text), ("reloaded", .bool reloaded), ("clients", .int clients)],
          { s with channel }) ∧
      (reloaded = true ↔ Compiles plugin s p ((respond plugin { path := '/' :: wanted }).run s)) ∧
      (reloaded = false ↔ SendsFile s p ((respond plugin { path := '/' :: wanted }).run s)) ∧
      (reloaded = true →
        clients = (List.range (queueCount (Reload.run ops).1)).countP
            (isSubscribed · (Reload.run ops).1) ∧
          channel.subscribed = s.channel.subscribed ∧ channel.streams = s.channel.streams ∧
          channel.queues.length = s.channel.queues.length ∧
          ∀ queue, channel.delivered queue = s.channel.delivered queue ∧
            channel.pending queue = s.channel.pending queue ++
              if isSubscribed queue (Reload.run ops).1 then [.fullReload] else []) ∧
      (reloaded = false → clients = 0 ∧ channel = s.channel) := by
  obtain ⟨asks, hasks⟩ := hfile.exists_asks
  have hagrees : Channel.Agrees (Reload.run ops).1 s.channel :=
    hchannel ▸ Channel.agrees_run ops
  have hcases := @serveAt_cases plugin s p wanted asks hasks hfile.found
  rw [← run_respond_path hwanted hfile] at hcases
  refine ⟨asks, _, _, run_respond_notice hbody hfile hasks, ?_, ?_, ?_, ?_⟩
  · refine ⟨hcases.1, fun hcompiles => ?_⟩
    cases asks with
    | true => rfl
    | false => exact absurd (hcases.2 rfl) hcompiles.not_sendsFile
  · refine ⟨hcases.2, fun hsends => ?_⟩
    cases asks with
    | true => exact absurd hsends (hcases.1 rfl).not_sendsFile
    | false => rfl
  · rintro rfl
    exact ⟨hagrees.subscriberCount_eq, rfl, rfl, List.length_mapIdx, fun queue =>
      ⟨Channel.delivered_send _ _ queue, hagrees.pending_send _ queue⟩⟩
  · rintro rfl
    exact ⟨rfl, rfl⟩

/-- A project with a module, and with a link to it that has the name of a path of the server. -/
def noticeTree (content : Bytes) : FileTree :=
  pageTree content [] [(["health".toList], ⟨.link "a.js", 0⟩)]

/-- A server of the project for two clients, of which one has left. -/
def noticeServer : ServerState :=
  { pageServer (noticeTree (Utf8.encode "\"use golang\"\nA")) [] with
    channel := (Reload.run [.subscribe, .subscribe, .unsubscribe 0]).2 }

/-- The body of a notice. -/
def noticeBody (file : Text) : Bytes :=
  Utf8.encode ("\x7b\"file\":\"".toList ++ file ++ "\"\x7d".toList)

theorem real_noticeTree (content : Bytes) {wanted : Text}
    (hwanted : wanted = "a.js" ∨ wanted = "health") :
    (noticeTree content).realPath (pagePlugin.projectRoot.child wanted) =
      .ok (Path.ofNames ["a.js".toList]) := by
  rcases hwanted with rfl | rfl <;> cbv

theorem read_noticeTree (content : Bytes) :
    (noticeTree content).read (Path.ofNames ["a.js".toList]) = .ok content := by
  cbv

/-- Both names lead to the module. -/
theorem isFileAt_noticeServer {wanted : Text} (hwanted : wanted = "a.js" ∨ wanted = "health") :
    IsFileAt pagePlugin noticeServer wanted (Path.ofNames ["a.js".toList]) ∧
      AsksForReload noticeServer (Path.ofNames ["a.js".toList]) true := by
  have hread : (files noticeServer).read (Path.ofNames ["a.js".toList]) =
      .ok (Utf8.encode "\"use golang\"\nA") := read_noticeTree _
  have htext : (Host.readText (Path.ofNames ["a.js".toList])).run.run noticeServer.session.host =
      (.ok "\"use golang\"\nA".toList, noticeServer.session.host) :=
    Host.run_readText_of_decode hread (Utf8.decode?_encode _)
  have hasks : AsksForReload noticeServer (Path.ofNames ["a.js".toList])
      (Directive.isPresent "\"use golang\"\nA") := .script (by decide) htext
  rw [isPage_a.present] at hasks
  have hfound : (files noticeServer).isFile (Path.ofNames ["a.js".toList]) = .ok true :=
    FileTree.isFile_of_read hread
  exact ⟨⟨real_noticeTree _ hwanted, by decide, hfound, fun _ => ⟨_, htext⟩⟩, hasks⟩

theorem noticedFile_noticeBody :
    noticedFile (noticeBody "a.js") = .ok "a.js".toList ∧
      noticedFile (noticeBody "health") = .ok "health".toList :=
  ⟨by cbv, by cbv⟩

theorem isProjectPath_module : IsProjectPath "a.js" where
  nonempty := by decide
  relative := by decide
  oneLine := by decide
  ordinary := by decide
  notHealth := by decide
  notEvents := by decide
  notPage := fun page => by cases page <;> decide

/-- The client that is left is sent a reload, and the module is compiled. -/
theorem respond_notice_module :
    ∃ channel,
      (respond pagePlugin { method := "POST", path := noticePath, body := noticeBody "a.js" }).run
        noticeServer = (.ofObject [("file", .text (Path.ofNames ["a.js".toList]).text),
          ("reloaded", .bool true), ("clients", .int 1)], { noticeServer with channel }) ∧
      Compiles pagePlugin noticeServer (Path.ofNames ["a.js".toList])
        ((respond pagePlugin { path := "/a.js" }).run noticeServer) ∧
      channel.pending 0 = [] ∧ channel.pending 1 = [.fullReload] := by
  obtain ⟨hfile, hasks⟩ := isFileAt_noticeServer (.inl rfl)
  obtain ⟨reloaded, clients, channel, hnotice, hcompiles, -, hsent, -⟩ :=
    respond_notice rfl isProjectPath_module hfile noticedFile_noticeBody.1
  have hcompiled : Compiles pagePlugin noticeServer (Path.ofNames ["a.js".toList])
      ((respond pagePlugin { path := '/' :: "a.js" }).run noticeServer) := by
    rw [run_respond_path isProjectPath_module hfile]
    exact (serveAt_cases hasks hfile.found).1 rfl
  obtain rfl := hcompiles.2 hcompiled
  obtain ⟨rfl, -, -, -, hqueues⟩ := hsent rfl
  exact ⟨channel, hnotice, hcompiled, (hqueues 0).2, (hqueues 1).2⟩

/-- Behind a link of the name of a path of the server a module asks for a reload, and a request for the
name is answered by the server itself. -/
theorem respond_notice_health :
    (files noticeServer).realPath (pagePlugin.projectRoot.child "health") =
        .ok (Path.ofNames ["a.js".toList]) ∧
      isInside pagePlugin.projectRoot (Path.ofNames ["a.js".toList]) = true ∧
      (files noticeServer).isFile (Path.ofNames ["a.js".toList]) = .ok true ∧
      ((respond pagePlugin { method := "POST", path := noticePath, body := noticeBody "health" }).run
        noticeServer).1 = .ofObject [("file", .text (Path.ofNames ["a.js".toList]).text),
          ("reloaded", .bool true), ("clients", .int 1)] ∧
      (respond pagePlugin { path := "/health" }).run noticeServer = (health pagePlugin, noticeServer) ∧
      ¬ Compiles pagePlugin noticeServer (Path.ofNames ["a.js".toList])
        ((respond pagePlugin { path := "/health" }).run noticeServer) := by
  obtain ⟨hfile, hasks⟩ := isFileAt_noticeServer (.inr rfl)
  have hhealth : (respond pagePlugin { path := "/health" }).run noticeServer =
      (health pagePlugin, noticeServer) := by
    have hartifact : isArtifact "/health" = false := by decide
    have hroute : Server.route? "/health" = some .health := by rfl
    rw [run_respond_handler, handler, hartifact, Bool.and_false, if_neg Bool.false_ne_true, serve, hroute]
    rfl
  refine ⟨hfile.real, hfile.inside, hfile.found, ?_, hhealth, ?_⟩
  · rw [run_respond_notice noticedFile_noticeBody.2 hfile hasks]
    rfl
  · rw [hhealth]
    intro hcompiles
    rcases hcompiles.script_or_failed with hscript | hfailed
    · have hjson : some Response.jsonType = some Response.scriptType := hscript
      exact absurd hjson (by decide)
    · have hok : (200 : Nat) = 500 := hfailed
      exact absurd hok (by decide)

end Server
end EmbeddedGo
