import LiteAgentify.Reload

/-!
# The config watcher

`watch_config` and `event_touches_config` of `src/reload.rs`: the thread that takes file system
events from a channel, waits for a burst of them to go quiet and reloads. Its reload reads the file
in one step and swaps the snapshot in another; in between, and everywhere else, files change, events
arrive late, time passes and other threads run their own calls on the snapshot. Their calls come
whole (`Call.exec`): each reads the file and the cells and stores with no other step in between, so
that it crosses no change of the file, no swap of the thread and no other call. What calls that do
cross can lose is the matter of `Sys`.
-/

set_option autoImplicit false

namespace LiteAgentify

/-! ## Events -/

/-- `notify::event::AccessMode` -/
inductive AccessMode
  | any
  | execute
  | read
  | write
  | other
  deriving DecidableEq

/-- `notify::event::AccessKind` -/
inductive AccessKind
  | any
  | read
  | opened (mode : AccessMode)
  | closed (mode : AccessMode)
  | other
  deriving DecidableEq

/-- `notify::EventKind`, with the details that the watcher looks at. -/
inductive EventKind
  | any
  | access (kind : AccessKind)
  | create
  | modify
  | remove
  | other
  deriving DecidableEq

/-- `notify::Event`; of its paths the file names, where they have one. -/
structure FsEvent where
  kind : EventKind
  paths : List (Option String)
  deriving DecidableEq

/-- Whether a message of the watcher can mean that the config file changed. -/
def eventTouchesConfig (fileName : String) (event : Except String FsEvent) : Bool :=
  match event with
  | .error _ => false
  | .ok event =>
    match event.kind with
    | .access (.closed .write) => event.paths.isEmpty || event.paths.any (· = some fileName)
    -- mere reads, which the reload itself makes
    | .access _ => false
    | _ => event.paths.isEmpty || event.paths.any (· = some fileName)

/-! ## The thread -/

/-- `DEBOUNCE_WINDOW` in milliseconds. -/
def debounceWindow : Nat := 500

/-- Where the thread is. -/
inductive WatcherPlace
  /-- In `recv`. -/
  | waiting
  /-- In `recv_timeout`, called at this time. -/
  | debouncing (since : Nat)
  /-- In `reload`, before it reads the file. -/
  | reloading
  /-- The file is read. -/
  | read (file : Except String GatewayConfig)
  /-- The channel is closed. -/
  | stopped

structure Watcher where
  shared : SharedGatewayState
  /-- What `load_from_path` gives now. -/
  file : Except String GatewayConfig
  /-- Events of the directory on their way to the channel. -/
  underway : List (Except String FsEvent)
  channel : List (Except String FsEvent)
  isOpen : Bool
  now : Nat
  place : WatcherPlace

inductive WatcherLabel
  /-- The file changes, and the file system tells. -/
  | change (file : Except String GatewayConfig) (events : List (Except String FsEvent))
  /-- Something else happens in the directory. -/
  | notice (event : Except String FsEvent)
  | deliver
  | close
  | tick (ms : Nat)
  /-- Another thread runs a whole call, one that reads no file, or `store_catalog` or `reload`. -/
  | storeApiKeys (apiKeys : ApiKeyMap)
  | storeGranted (granted : HashMap Uuid ℚ)
  | storeCatalog (catalog : CatalogSnapshot)
  | reload
  /-- The thread takes a message, or sees the closed channel. -/
  | recv
  | timeout
  | readFile
  | swap

namespace Watcher

variable (P : Packages) (fileName : String)

/-- Another thread runs a call that crosses nothing: what it reads is there when it stores. -/
def call (s : Watcher) (call : Call) : Watcher := { s with shared := call.exec P s.shared }

/-- The watch has begun: no event was seen yet. -/
def init (shared : SharedGatewayState) (file : Except String GatewayConfig) (now : Nat) :
    Watcher := ⟨shared, file, [], [], true, now, .waiting⟩

/-- One step of the thread, of the file system, of time, or one whole call of another thread. -/
def step (s : Watcher) : WatcherLabel → Option Watcher
  | .change file events => some { s with file := file, underway := s.underway ++ events }
  | .notice event => some { s with underway := s.underway ++ [event] }
  | .deliver =>
    match s.underway with
    | event :: rest =>
      if s.isOpen then some { s with underway := rest, channel := s.channel ++ [event] } else none
    | [] => none
  | .close => some { s with isOpen := false }
  | .tick ms => some { s with now := s.now + ms }
  | .storeApiKeys apiKeys => some (s.call P (.storeApiKeys apiKeys))
  | .storeGranted granted => some (s.call P (.storeGranted granted))
  | .storeCatalog catalog => some (s.call P (.storeCatalog catalog s.file))
  | .reload => some (s.call P (.reload s.file))
  | .recv =>
    match s.place, s.channel with
    | .waiting, event :: rest =>
      some { s with
        channel := rest
        place := if eventTouchesConfig fileName event then .debouncing s.now else .waiting }
    -- any event keeps the burst going
    | .debouncing _, _ :: rest => some { s with channel := rest, place := .debouncing s.now }
    | .waiting, [] | .debouncing _, [] =>
      if s.isOpen then none else some { s with place := .stopped }
    | _, _ => none
  | .timeout =>
    match s.place with
    | .debouncing since =>
      if s.channel = [] ∧ s.isOpen ∧ since + debounceWindow ≤ s.now then
        some { s with place := .reloading }
      else none
    | _ => none
  | .readFile =>
    match s.place with
    | .reloading => some { s with place := .read s.file }
    | _ => none
  -- an error is logged
  | .swap =>
    match s.place with
    | .read file => some { s.call P (.reload file) with place := .waiting }
    | _ => none

end Watcher

end LiteAgentify
