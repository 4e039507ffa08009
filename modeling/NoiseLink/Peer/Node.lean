import NoiseLink.Peer.Address
import NoiseLink.Peer.Config

namespace NoiseLink

inductive Shutdown where
  | never
  | interrupted
  | failed (reason : String)
  deriving DecidableEq, Repr

/-- What the outside gives to a node. -/
structure Network (S : Suite) where
  bind : Endpoint → Except SystemError String
  /-- What the listener accepts, with a fresh secret for each connection. -/
  accepted : List (S.Secret × Socket)
  /-- What comes of dialing the contact of this number. Two attempts at one address may end differently. -/
  dial : Nat → Endpoint → Except SystemError (S.Secret × Socket)

def Network.quiet {S : Suite} : Network S where
  bind e := if e.isLocal then .ok "127.0.0.1:9735" else .error .addressNotAvailable
  accepted := []
  dial _ _ := .error .refused

structure Task (S : Suite) where
  /-- What the task logs before it first reports. -/
  notes : List Log.Event
  reports : List (Status S)
  ends : Bool

structure Node (S : Suite) where
  tasks : List (Task S)
  queue : List (Status S)
  handled : List (Status S)
  log : List Log.Event
  stopped : Bool

namespace Node

variable {S : Suite}

def target : String := "peer_bolt8"

def info (text : String) : Log.Event := ⟨.info, target, text⟩

def idEvent (config : Config S) : Log.Event := info ("Node id: " ++ S.point.print config.nodeId)

def listeningEvent (bound : String) : Log.Event := info ("Listening for connections on " ++ bound)

def dialingEvent (contact : Contact S) : Log.Event :=
  info ("Dialing " ++ S.point.print contact.node ++ " at " ++ contact.address)

def idleEvent : Log.Event := info "No connection left"

def shutdownEvent : Shutdown → Option Log.Event
  | .never => none
  | .interrupted => some (info "Interrupt received")
  | .failed reason => some ⟨.error, target, "Unable to listen for interrupt signal: " ++ reason⟩

inductive Step where
  | work (task : Nat)
  | receive
  | interrupt (shutdown : Shutdown)
  deriving DecidableEq, Repr

def work (n : Node S) (i : Nat) : Node S :=
  match n.tasks[i]? with
  | none => n
  | some t =>
    let n := { n with log := n.log ++ t.notes }
    match t.reports with
    | s :: rest => { n with queue := n.queue ++ [s], tasks := n.tasks.set i { t with notes := [], reports := rest } }
    | [] => { n with tasks := if t.ends then n.tasks.eraseIdx i else n.tasks.set i { t with notes := [] } }

/-- Takes the next report; when no task is left that could make one, the node stops. -/
def receive (n : Node S) : Node S :=
  match n.queue with
  | s :: rest =>
    { n with queue := rest, handled := n.handled ++ [s], log := n.log ++ [s.event], stopped := s.stops }
  | [] =>
    if n.tasks.isEmpty then { n with log := n.log ++ [idleEvent], stopped := true } else n

def interrupt (n : Node S) (shutdown : Shutdown) : Node S :=
  match shutdownEvent shutdown with
  | some e => { n with log := n.log ++ [e], stopped := true }
  | none => n

def step (n : Node S) (s : Step) : Node S :=
  if n.stopped then n
  else
    match s with
    | .work i => n.work i
    | .receive => n.receive
    | .interrupt shutdown => n.interrupt shutdown

def run (n : Node S) (steps : List Step) : Node S := steps.foldl step n

def connectionTask (settings : Settings) (notes : List Log.Event) (role : Role S) (socket : Socket) : Task S :=
  let handled := settings.handle role socket
  ⟨notes, handled.statuses, handled.ended⟩

def listenTasks (config : Config S) (accepted : List (S.Secret × Socket)) : List (Task S) :=
  ⟨[], [], false⟩ :: accepted.map fun (ephemeral, socket) =>
    connectionTask config.settings [] (.responder (.new config.secret ephemeral)) socket

def dialTask (config : Config S) (network : Network S) (i : Nat) (contact : Contact S) : Task S :=
  match (Endpoint.parse contact.address).bind (network.dial i) with
  | .error e => ⟨[], [.dialFailed contact.address (.system e)], true⟩
  | .ok (ephemeral, socket) =>
    connectionTask config.settings [dialingEvent contact] (.initiator (.new config.secret ephemeral contact.node)) socket

def start (config : Config S) (network : Network S) : List Log.Event × Except PeerError (Node S) :=
  match config.validate with
  | .error e => ([], .error e)
  | .ok () =>
    let log := [idEvent config]
    let dials := config.contacts.mapIdx (dialTask config network)
    match config.listen with
    | none => (log, .ok ⟨dials, [], [], log, false⟩)
    | some address =>
      match (Endpoint.parse address).bind network.bind with
      | .error e => (log, .error (.system e))
      | .ok bound =>
        let log := log ++ [listeningEvent bound]
        (log, .ok ⟨listenTasks config network.accepted ++ dials, [], [], log, false⟩)

def workAll (i : Nat) : List (Task S) → List Step
  | [] => []
  | t :: rest => List.replicate (t.reports.length + 1) (.work i) ++ workAll (if t.ends then i else i + 1) rest

/-- A shutdown that is due comes before all reports; otherwise every report is made and taken. -/
def schedule (n : Node S) (shutdown : Shutdown) : List Step :=
  let reports := (n.tasks.flatMap (·.reports)).length
  .interrupt shutdown :: (workAll 0 n.tasks ++ List.replicate (reports + 1) .receive)

def runToEnd (config : Config S) (network : Network S) (shutdown : Shutdown) :
    List Log.Event × Except PeerError (Node S) :=
  match start config network with
  | (log, .error e) => (log, .error e)
  | (_, .ok n) =>
    let n := n.run (n.schedule shutdown)
    (n.log, .ok n)

end Node
end NoiseLink
