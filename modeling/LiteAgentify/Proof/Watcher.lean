import LiteAgentify.Reload.Watcher
import LiteAgentify.Proof.Rebuilt

/-!
# The watcher keeps up with the file

A change of the file is always on its way to the snapshot: its event is underway, or in the channel,
or the thread is past it and has yet to read the file (`Watcher.Chasing`). So whenever the thread
waits and no event is left, a reload would change nothing (`watcher_catches_up`), the calls of other
threads being whole. A reload makes only events that the thread ignores, so it cannot set off
another one: there are no more reloads than events that touch the file (`reloads_need_changes`).
-/

set_option autoImplicit false

namespace LiteAgentify

open Lts Keyed

/-- The events that a label brings. -/
def WatcherLabel.events : WatcherLabel → List (Except String FsEvent)
  | .change _ events => events
  | .notice event => [event]
  | _ => []

/-- The label starts a reload. -/
def WatcherLabel.isTimeout : WatcherLabel → Bool
  | .timeout => true
  | _ => false

/-- One for a thread that waits for the end of a burst. -/
def WatcherPlace.armed : WatcherPlace → Nat
  | .debouncing _ => 1
  | _ => 0

/-- Steps of the thread, deliveries, and time. -/
def WatcherLabel.isOwn : WatcherLabel → Bool
  | .deliver | .recv | .timeout | .readFile | .swap | .tick _ => true
  | _ => false

namespace Watcher

variable {P : Packages} {fileName : String} {s s' : Watcher}

/-- Reloading the file as it stands would change nothing. -/
def Current (P : Packages) (s : Watcher) : Prop :=
  (Call.reload s.file).exec P s.shared = s.shared

/-- An event that touches the file has not come to the thread yet. -/
def Told (fileName : String) (s : Watcher) : Prop :=
  ∃ event ∈ s.underway ++ s.channel, eventTouchesConfig fileName event

/-- A change of the file comes with an event that touches it. -/
def Reported (fileName : String) (_ : Watcher) : WatcherLabel → Prop
  | .change _ events => ∃ event ∈ events, eventTouchesConfig fileName event
  | _ => True

/-- A waiting thread with nothing more to learn. -/
structure AtRest (s : Watcher) : Prop where
  place : s.place = .waiting
  underway : s.underway = []
  channel : s.channel = []

/-! ## A reload that changes nothing -/

theorem exec_reload_idem (file : Except String GatewayConfig) (shared : SharedGatewayState) :
    (Call.reload file).exec P ((Call.reload file).exec P shared) =
      (Call.reload file).exec P shared := by
  cases h : (Call.reload file).result P shared with
  | error e => rw [Call.exec_of_error h, Call.exec_of_error h]
  | ok u =>
    obtain ⟨config, rfl, hc, hr⟩ := Call.reload_result_ok.1 h
    rw [exec_reload hr shared hc]
    exact exec_reload hr _ hc

/-- Only the routing fields and the catalog decide whether a reload changes anything. -/
theorem Current.of_routing (h : s.Current P) (hfile : s'.file = s.file)
    (hrouting : s'.shared.state.routing = s.shared.state.routing)
    (hcatalog : s'.shared.catalog = s.shared.catalog) : s'.Current P := by
  unfold Current at h ⊢
  rw [hfile]
  cases hres : (Call.reload s.file).result P s'.shared with
  | error e => exact Call.exec_of_error hres
  | ok u =>
    obtain ⟨config, hok, hc, hr⟩ := Call.reload_result_ok.1 hres
    rw [hok] at h ⊢
    rw [exec_reload hr _ hc]
    rw [exec_reload hr _ (hcatalog ▸ hc)] at h
    have hstate := congrArg (·.state.routing) h
    have hsame : s'.shared.state.routing = routingOf s'.shared.catalog config.retry := by
      rw [hrouting, hcatalog]
      exact hstate.symm
    cases hs : s'.shared with
    | mk state catalog =>
      rw [hs] at hsame
      rw [← hsame]
      rfl

theorem Current.storeCatalog (h : s.Current P) (catalog : CatalogSnapshot) :
    (s.call P (.storeCatalog catalog s.file)).Current P := by
  unfold Current call
  cases hres : (Call.storeCatalog catalog s.file).result P s.shared with
  | error e =>
    rw [Call.exec_of_error hres]
    exact h
  | ok u =>
    obtain ⟨config, hok, hc, hr⟩ := Call.storeCatalog_result_ok.1 hres
    show (Call.reload s.file).exec P ((Call.storeCatalog catalog s.file).exec P s.shared) = _
    rw [hok, exec_storeCatalog hc hr]
    exact exec_reload hr _ hc

/-- What is current serves the file's retry policy. -/
theorem Current.retryPolicy (h : s.Current P) {config : GatewayConfig} (hfile : s.file = .ok config)
    (hc : s.shared.catalog.Valid P) (hr : config.retry.Valid) :
    s.shared.state.retryPolicy = config.retry.policy := by
  unfold Current at h
  rw [hfile, exec_reload hr _ hc] at h
  exact congrArg (·.state.retryPolicy) h.symm

/-! ## The invariant -/

/-- Whatever the snapshot lacks of the file is on its way. -/
structure Chasing (P : Packages) (fileName : String) (s : Watcher) : Prop where
  waiting : s.place = .waiting → s.Current P ∨ s.Told fileName
  read : ∀ file, s.place = .read file → file = s.file ∨ s.Told fileName

/-- A step that leaves the thread and the file alone. -/
theorem Chasing.keep (h : s.Chasing P fileName) (hplace : s'.place = s.place)
    (hfile : s'.file = s.file) (hcurrent : s.Current P → s'.Current P)
    (htold : s.Told fileName → s'.Told fileName) : s'.Chasing P fileName where
  waiting hw := (h.waiting (hplace ▸ hw)).imp hcurrent htold
  read file hr := by
    rw [hfile]
    exact (h.read file (hplace ▸ hr)).imp_right htold

/-- The thread is on its way to a reload, or has stopped. -/
theorem Chasing.busy (hwaiting : s.place ≠ .waiting) (hread : ∀ file, s.place ≠ .read file) :
    s.Chasing P fileName :=
  ⟨fun h => absurd h hwaiting, fun file h => absurd h (hread file)⟩

theorem Chasing.recv (h : s.Chasing P fileName) (hs : s.step P fileName .recv = some s') :
    s'.Chasing P fileName := by
  simp only [step] at hs
  split at hs
  · rename_i event rest hplace hchannel
    cases hs
    by_cases htouch : eventTouchesConfig fileName event
    · refine .busy ?_ fun file => ?_
      · simp [htouch]
      · simp [htouch]
    · refine ⟨fun _ => (h.waiting hplace).imp id ?_, fun file hr => ?_⟩
      · rintro ⟨told, hmem, htold⟩
        rw [hchannel, List.mem_append, List.mem_cons] at hmem
        refine ⟨told, List.mem_append.2 ?_, htold⟩
        rcases hmem with hmem | rfl | hmem
        · exact .inl hmem
        · exact absurd htold htouch
        · exact .inr hmem
      · simp [htouch] at hr
  · cases hs
    exact .busy (by simp) fun file => by simp
  · split at hs
    · cases hs
    · cases hs
      exact .busy (by simp) fun file => by simp
  · split at hs
    · cases hs
    · cases hs
      exact .busy (by simp) fun file => by simp
  · cases hs

theorem Chasing.step (h : s.Chasing P fileName) {label : WatcherLabel}
    (hok : s.Reported fileName label) (hs : s.step P fileName label = some s') :
    s'.Chasing P fileName := by
  cases label with
  | change file events =>
    cases hs
    obtain ⟨event, hmem, htouch⟩ := hok
    have htold : Told fileName { s with file := file, underway := s.underway ++ events } :=
      ⟨event, by simp [hmem], htouch⟩
    exact ⟨fun _ => .inr htold, fun _ _ => .inr htold⟩
  | notice event =>
    cases hs
    refine h.keep rfl rfl id ?_
    rintro ⟨told, hmem, htouch⟩
    refine ⟨told, ?_, htouch⟩
    rcases List.mem_append.1 hmem with hmem | hmem
    · simp [hmem]
    · simp [hmem]
  | deliver =>
    simp only [Watcher.step] at hs
    split at hs
    · rename_i event rest hunderway
      split at hs
      · cases hs
        refine h.keep rfl rfl id ?_
        rintro ⟨told, hmem, htouch⟩
        refine ⟨told, ?_, htouch⟩
        rw [hunderway, List.cons_append, List.mem_cons, List.mem_append] at hmem
        rcases hmem with rfl | hmem | hmem
        · simp
        · simp [hmem]
        · simp [hmem]
      · cases hs
    · cases hs
  | close =>
    cases hs
    exact h.keep rfl rfl id id
  | tick ms =>
    cases hs
    exact h.keep rfl rfl id id
  | storeApiKeys apiKeys =>
    cases hs
    exact h.keep rfl rfl (fun hc => hc.of_routing rfl rfl rfl) id
  | storeGranted granted =>
    cases hs
    exact h.keep rfl rfl (fun hc => hc.of_routing rfl rfl rfl) id
  | storeCatalog catalog =>
    cases hs
    exact h.keep rfl rfl (fun hc => hc.storeCatalog catalog) id
  | reload =>
    cases hs
    exact h.keep rfl rfl (fun _ => exec_reload_idem s.file s.shared) id
  | recv => exact h.recv hs
  | timeout =>
    simp only [Watcher.step] at hs
    split at hs
    · split at hs
      · cases hs
        exact .busy (by simp) fun file => by simp
      · cases hs
    · cases hs
  | readFile =>
    simp only [Watcher.step] at hs
    split at hs
    · cases hs
      refine ⟨fun hw => by simp at hw, fun file hr => .inl ?_⟩
      simpa using hr.symm
    · cases hs
  | swap =>
    simp only [Watcher.step] at hs
    split at hs
    · rename_i file hplace
      cases hs
      refine ⟨fun _ => ?_, fun file' hr => by simp at hr⟩
      rcases h.read file hplace with rfl | htold
      · exact .inl (exec_reload_idem s.file s.shared)
      · exact .inr htold
    · cases hs

/-- At rest there is nothing left to tell. -/
theorem AtRest.current (hrest : s.AtRest) (h : s.Chasing P fileName) : s.Current P := by
  refine (h.waiting hrest.place).resolve_right ?_
  rintro ⟨event, hmem, -⟩
  simp [hrest.underway, hrest.channel] at hmem

/-! ## Reloads and changes -/

/-- The events of a list that touch the file. -/
def touching (fileName : String) (events : List (Except String FsEvent)) : Nat :=
  events.countP (eventTouchesConfig fileName)

/-- The events that touch the file and have not led to a reload yet. -/
def due (fileName : String) (s : Watcher) : Nat :=
  touching fileName s.underway + touching fileName s.channel + s.place.armed

theorem due_step {label : WatcherLabel} (hs : s.step P fileName label = some s') :
    s'.due fileName + label.isTimeout.toNat ≤ s.due fileName + touching fileName label.events := by
  cases label with
  | change file events =>
    cases hs
    simp only [due, touching, WatcherLabel.isTimeout, WatcherLabel.events, List.countP_append,
      Bool.toNat_false]
    omega
  | notice event =>
    cases hs
    simp only [due, touching, WatcherLabel.isTimeout, WatcherLabel.events, List.countP_append,
      Bool.toNat_false]
    omega
  | deliver =>
    simp only [step] at hs
    split at hs
    · rename_i event rest hunderway
      split at hs
      · cases hs
        have hcons : touching fileName s.underway =
            touching fileName [event] + touching fileName rest := by
          rw [hunderway, ← List.singleton_append, touching, List.countP_append]
          rfl
        simp only [due, WatcherLabel.isTimeout, Bool.toNat_false, hcons]
        rw [touching, touching, touching, touching, List.countP_append]
        omega
      · cases hs
    · cases hs
  | close | tick ms | storeApiKeys apiKeys | storeGranted granted | storeCatalog catalog | reload =>
    cases hs
    exact Nat.le_add_right _ _
  | recv =>
    simp only [step] at hs
    split at hs
    · rename_i event rest hplace hchannel
      cases hs
      -- an event that touches the file arms the thread, and leaves the channel
      by_cases htouch : eventTouchesConfig fileName event
      · simp only [due, touching, hplace, hchannel, htouch, WatcherPlace.armed,
          WatcherLabel.isTimeout, List.countP_cons, if_true, Bool.toNat_false]
        omega
      · simp only [due, touching, hplace, hchannel, htouch, WatcherPlace.armed,
          WatcherLabel.isTimeout, List.countP_cons, Bool.toNat_false, Bool.false_eq_true, if_false]
        omega
    · rename_i since event rest hplace hchannel
      cases hs
      simp only [due, touching, hplace, hchannel, WatcherPlace.armed, WatcherLabel.isTimeout,
        List.countP_cons, Bool.toNat_false]
      omega
    · split at hs
      · cases hs
      · cases hs
        exact Nat.le_trans (Nat.le_add_right _ _) (Nat.le_add_right _ _)
    · split at hs
      · cases hs
      · cases hs
        exact Nat.le_trans (Nat.add_le_add_left (Nat.zero_le _) _) (Nat.le_add_right _ _)
    · cases hs
  | timeout =>
    simp only [step] at hs
    split at hs
    · rename_i since hplace
      split at hs
      · cases hs
        simp [due, hplace, WatcherPlace.armed, WatcherLabel.isTimeout]
      · cases hs
    · cases hs
  | readFile =>
    simp only [step] at hs
    split at hs
    · rename_i hplace
      cases hs
      simp [due, hplace, WatcherPlace.armed, WatcherLabel.isTimeout]
    · cases hs
  | swap =>
    simp only [step] at hs
    split at hs
    · rename_i file hplace
      cases hs
      simp [due, call, hplace, WatcherPlace.armed, WatcherLabel.isTimeout]
    · cases hs

/-- What is left and the reloads so far come from events of the run. -/
theorem due_run {tr : List WatcherLabel} (h : Steps (step P fileName) s tr s') :
    s'.due fileName + tr.countP WatcherLabel.isTimeout ≤
      s.due fileName + touching fileName (tr.flatMap WatcherLabel.events) := by
  induction h with
  | nil => simp [touching]
  | @snoc tr u v label hr _ hs ih =>
    have hstep := due_step hs
    have hevents : touching fileName ((tr ++ [label]).flatMap WatcherLabel.events) =
        touching fileName (tr.flatMap WatcherLabel.events) + touching fileName label.events := by
      rw [List.flatMap_append, touching, List.countP_append]
      simp [touching]
    have hcount : (tr ++ [label]).countP WatcherLabel.isTimeout =
        tr.countP WatcherLabel.isTimeout + label.isTimeout.toNat := by
      rw [List.countP_append]
      cases label <;> rfl
    rw [hevents, hcount]
    omega

/-! ## Coming to rest -/

/-- Left alone, the thread gets from one state to another, with so many reloads. -/
def Settles (P : Packages) (fileName : String) (n : Nat) (s s' : Watcher) : Prop :=
  ∃ tr, Steps (step P fileName) s tr s' ∧ tr.all WatcherLabel.isOwn ∧
    tr.countP WatcherLabel.isTimeout = n

theorem Settles.refl : Settles P fileName 0 s s := ⟨[], .nil, rfl, rfl⟩

theorem Settles.next {n : Nat} {u : Watcher} (label : WatcherLabel)
    (hs : s.step P fileName label = some u) (hown : label.isOwn) (h : Settles P fileName n u s') :
    Settles P fileName (label.isTimeout.toNat + n) s s' := by
  obtain ⟨tr, hrun, hall, hcount⟩ := h
  have hfirst : Steps (step P fileName) s [label] u := Run.snoc .nil trivial hs
  refine ⟨label :: tr, hfirst.trans hrun, by simpa [hown] using hall, ?_⟩
  rw [List.countP_cons, hcount, Nat.add_comm]
  cases label <;> rfl

theorem Settles.trans {n m : Nat} {u : Watcher} (h : Settles P fileName n s u)
    (h' : Settles P fileName m u s') : Settles P fileName (n + m) s s' := by
  obtain ⟨tr, hrun, hall, hcount⟩ := h
  obtain ⟨tr', hrun', hall', hcount'⟩ := h'
  exact ⟨tr ++ tr', hrun.trans hrun', by simp [hall, hall'], by simp [hcount, hcount']⟩

/-- Every event underway is delivered. -/
theorem deliver_all (P : Packages) (fileName : String) (s : Watcher) (hopen : s.isOpen) :
    ∃ v, Settles P fileName 0 s v ∧ v.isOpen ∧ v.underway = [] ∧ v.place = s.place := by
  induction hunderway : s.underway generalizing s with
  | nil => exact ⟨s, .refl, hopen, hunderway, rfl⟩
  | cons event rest ih =>
    obtain ⟨v, hrun, hv⟩ :=
      ih { s with underway := rest, channel := s.channel ++ [event] } hopen rfl
    have hstep : s.step P fileName .deliver =
        some { s with underway := rest, channel := s.channel ++ [event] } := by
      simp only [step, hunderway, if_pos hopen]
    exact ⟨v, .next .deliver hstep rfl hrun, hv⟩

/-- A thread that waits for an event, or for the end of a burst. -/
def Receiving (s : Watcher) : Prop := s.place = .waiting ∨ ∃ since, s.place = .debouncing since

/-- Every event in the channel is taken. -/
theorem recv_all (P : Packages) (fileName : String) (s : Watcher) (hopen : s.isOpen)
    (hunderway : s.underway = []) (hplace : s.Receiving) :
    ∃ v, Settles P fileName 0 s v ∧ v.isOpen ∧ v.underway = [] ∧ v.channel = [] ∧
      v.Receiving := by
  induction hchannel : s.channel generalizing s with
  | nil => exact ⟨s, .refl, hopen, hunderway, hchannel, hplace⟩
  | cons event rest ih =>
    rcases hplace with hplace | ⟨since, hplace⟩
    · by_cases htouch : eventTouchesConfig fileName event
      · have hstep : s.step P fileName .recv =
            some { s with channel := rest, place := .debouncing s.now } := by
          simp only [step, hplace, hchannel, if_pos htouch]
        obtain ⟨v, hrun, hv⟩ := ih { s with channel := rest, place := .debouncing s.now } hopen
          hunderway (.inr ⟨s.now, rfl⟩) rfl
        exact ⟨v, .next .recv hstep rfl hrun, hv⟩
      · have hstep : s.step P fileName .recv =
            some { s with channel := rest, place := .waiting } := by
          simp only [step, hplace, hchannel, if_neg htouch]
        obtain ⟨v, hrun, hv⟩ := ih { s with channel := rest, place := .waiting } hopen
          hunderway (.inl rfl) rfl
        exact ⟨v, .next .recv hstep rfl hrun, hv⟩
    · have hstep : s.step P fileName .recv =
          some { s with channel := rest, place := .debouncing s.now } := by
        simp only [step, hplace, hchannel]
      obtain ⟨v, hrun, hv⟩ := ih { s with channel := rest, place := .debouncing s.now } hopen
        hunderway (.inr ⟨s.now, rfl⟩) rfl
      exact ⟨v, .next .recv hstep rfl hrun, hv⟩

theorem settles_read {file : Except String GatewayConfig} (hplace : s.place = .read file) :
    Settles P fileName 0 s { s.call P (.reload file) with place := .waiting } :=
  .next .swap (by simp only [step, hplace]) rfl .refl

theorem settles_reloading (hplace : s.place = .reloading) :
    Settles P fileName 0 s { s.call P (.reload s.file) with place := .waiting } := by
  have hread : s.step P fileName .readFile = some { s with place := .read s.file } := by
    simp only [step, hplace]
  exact .next .readFile hread rfl (settles_read rfl)

/-- Left alone, the thread comes to rest, with one more reload at most. -/
theorem settles (s : Watcher) (hopen : s.isOpen) (hplace : s.place ≠ .stopped) :
    ∃ n ≤ 1, ∃ v, Settles P fileName n s v ∧ v.AtRest := by
  -- a reload that has started ends
  obtain ⟨u, hfinish, hopen, hplace⟩ :
      ∃ u, Settles P fileName 0 s u ∧ u.isOpen ∧ u.Receiving := by
    cases hp : s.place with
    | waiting => exact ⟨s, .refl, hopen, .inl hp⟩
    | debouncing since => exact ⟨s, .refl, hopen, .inr ⟨since, hp⟩⟩
    | reloading => exact ⟨_, settles_reloading hp, hopen, .inl rfl⟩
    | read file => exact ⟨_, settles_read hp, hopen, .inl rfl⟩
    | stopped => exact absurd hp hplace
  obtain ⟨v, hdeliver, hopen, hunderway, hsame⟩ := deliver_all P fileName u hopen
  obtain ⟨w, hrecv, hopen, hunderway, hchannel, hplace⟩ :=
    recv_all P fileName v hopen hunderway (by rwa [Receiving, hsame])
  have hdrained : Settles P fileName 0 s w := (hfinish.trans hdeliver).trans hrecv
  rcases hplace with hplace | ⟨since, hplace⟩
  · exact ⟨0, Nat.zero_le 1, w, hdrained, hplace, hunderway, hchannel⟩
  · -- the burst ends after the window
    let late : Watcher := { w with now := w.now + (since + debounceWindow) }
    have htick : w.step P fileName (.tick (since + debounceWindow)) = some late := rfl
    have htimeout : late.step P fileName .timeout = some { late with place := .reloading } := by
      simp only [step, late, hplace]
      exact if_pos ⟨hchannel, hopen, Nat.le_add_left _ _⟩
    have hreload := Settles.next _ htick rfl (.next .timeout htimeout rfl (settles_reloading rfl))
    exact ⟨1, le_rfl, _, hdrained.trans hreload, rfl, hunderway, hchannel⟩

end Watcher

open Watcher

/-- **The watcher catches up.** Start watching right after a boot, with the file unchanged since. If
every change of the file is reported by an event, and the calls of other threads come whole, then
whenever the thread waits with no event left, another reload would change nothing: whatever was
written, read, delivered late or swapped by other threads in the meantime, a file that can be served
is being served. -/
theorem watcher_catches_up {P : Packages} {fileName : String} {config : GatewayConfig}
    {catalog : CatalogSnapshot} {upstream usageRecorder : Handle} {apiKeys : ApiKeyMap}
    {granted : HashMap Uuid ℚ} {spendCounter : SpendCounter} {shared : SharedGatewayState}
    {now : Nat} {tr : List WatcherLabel} {s : Watcher}
    (hboot : buildRouterShared P config catalog upstream usageRecorder apiKeys granted
      spendCounter = .ok shared)
    (hrun : Run (step P fileName) (Reported fileName) (init shared (.ok config) now) tr s)
    (hrest : s.AtRest) :
    s.Current P ∧ ∀ config, s.file = .ok config → s.shared.catalog.Valid P → config.retry.Valid →
      s.shared.state.retryPolicy = config.retry.policy := by
  have hstart : (init shared (.ok config) now).Chasing P fileName := by
    refine ⟨fun _ => .inl ?_, fun file hr => by cases hr⟩
    simp only [buildRouterShared, bind_ok, pure, Except.pure, Except.ok.injEq] at hboot
    obtain ⟨state, hstate, rfl⟩ := hboot
    obtain ⟨hc, hr, rfl⟩ := fromParts_ok.1 hstate
    exact exec_reload hr _ hc
  have hcurrent := hrest.current (hrun.inv hstart fun u label v hu hok hs => hu.step hok hs)
  exact ⟨hcurrent, fun config hfile hc hr => hcurrent.retryPolicy hfile hc hr⟩

def watchedConfig (maxAttempts : Nat) : GatewayConfig :=
  ⟨[], none, [], [], [], { maxAttempts := maxAttempts }⟩

/-- What a boot serves without a provider or a model. -/
def watchedShared (maxAttempts : Nat) : SharedGatewayState :=
  ⟨.ofRouting (routingOf ⟨[], [], []⟩ (watchedConfig maxAttempts).retry) 0 0, ⟨[], [], []⟩⟩

/-- The file is saved, and the reload reads it. -/
def saveAndRead : List WatcherLabel :=
  [.change (.ok (watchedConfig 7)) [.ok ⟨.modify, [some "gateway.toml"]⟩], .deliver, .recv,
    .notice (.ok ⟨.access (.opened .read), [some "gateway.toml"]⟩), .tick 500, .timeout, .readFile,
    .swap, .deliver, .recv]

def afterSave : Watcher :=
  { init (watchedShared 7) (.ok (watchedConfig 7)) 500 with place := .waiting }

theorem saveAndRead_run : Run (step default "gateway.toml") (Reported "gateway.toml")
    (init (watchedShared 4) (.ok (watchedConfig 4)) 0) saveAndRead afterSave := by
  have hreported (u : Watcher) : Reported "gateway.toml" u
      (.change (.ok (watchedConfig 7)) [.ok ⟨.modify, [some "gateway.toml"]⟩]) :=
    ⟨_, List.mem_singleton_self _, rfl⟩
  have hsteps : Steps (step default "gateway.toml")
      (init (watchedShared 4) (.ok (watchedConfig 4)) 0) saveAndRead afterSave :=
    steps_of_exec rfl
  refine hsteps.restrict fun u l hl => ?_
  simp only [saveAndRead, List.mem_cons, List.not_mem_nil, or_false] at hl
  rcases hl with rfl | rfl | rfl | rfl | rfl | rfl | rfl | rfl | rfl | rfl
  · exact hreported u
  all_goals trivial

/-- The saved policy is served, and the read of the file leads to no other reload. -/
theorem watcher_catches_up_sample :
    afterSave.Current default ∧ afterSave.shared.state.retryPolicy.maxAttempts = 7 := by
  have hboot : buildRouterShared default (watchedConfig 4) ⟨[], [], []⟩ 0 0 ∅ ∅ .fresh =
      .ok (watchedShared 4) := rfl
  exact ⟨(watcher_catches_up hboot saveAndRead_run ⟨rfl, rfl, rfl⟩).1, rfl⟩

/-- **Reloads need changes.** However events, reloads and whole calls of other threads interleave,
there are no more reloads than events that touch the file. Left alone while the event channel is
open, a thread that has not stopped comes to rest with one more at most. -/
theorem reloads_need_changes {P : Packages} {fileName : String} {shared : SharedGatewayState}
    {file : Except String GatewayConfig} {now : Nat} {tr : List WatcherLabel} {s : Watcher}
    (hrun : Steps (step P fileName) (init shared file now) tr s) :
    tr.countP WatcherLabel.isTimeout ≤ touching fileName (tr.flatMap WatcherLabel.events) ∧
      (s.isOpen → s.place ≠ .stopped → ∃ n ≤ 1, ∃ v, Settles P fileName n s v ∧ v.AtRest) := by
  refine ⟨?_, settles s⟩
  have hdue := due_run hrun
  have hinit : (init shared file now).due fileName = 0 := rfl
  omega

/-- One save, one reload. -/
theorem reloads_need_changes_sample :
    saveAndRead.countP WatcherLabel.isTimeout = 1 ∧
      saveAndRead.countP WatcherLabel.isTimeout ≤
        touching "gateway.toml" (saveAndRead.flatMap WatcherLabel.events) :=
  ⟨rfl, (reloads_need_changes (saveAndRead_run.mono fun _ _ _ => trivial)).1⟩

end LiteAgentify
