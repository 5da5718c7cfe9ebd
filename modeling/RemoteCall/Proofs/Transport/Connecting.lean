import Mathlib.Tactic
import RemoteCall.PlainChannel

/-!
# Life of a plain channel

A channel is called in any order and its socket answers in any way. Its user sees what each call
came to, and from this alone it can be told whether the channel is in service: the latest connect to
be finished went well, and nothing has failed or closed the channel since. Just then the socket is
asked to read or write. A channel that is closed stays closed. A connect that fails closes the
channel, unless it is the delay option that was refused.
-/
namespace RemoteCall

/-- A call on a plain channel, with what the socket answers if it is asked. -/
inductive PlainCall where
  | connect (target : Address)
  | finishConnect (socket : SocketAnswer)
  | read (room : Nat) (answer : Except SocketFault Bytes)
  | write (offer : Bytes) (answer : Except SocketFault Nat)
  | close

/-- What the user of a plain channel sees of a call. -/
inductive PlainEvent where
  | connected (result : Except SocketFault Unit)
  | finished (result : Except SocketFault Unit)
  | read (result : Except SocketFault (Transfer Bytes))
  | wrote (result : Except SocketFault (Transfer Nat))
  | closed

/-- The channel is out of service after this. -/
def PlainEvent.endsService : PlainEvent → Bool
  | finished (.error _) => true
  | closed => true
  | _ => false

/-- A connect was finished, and nothing has ended the service since. -/
def InService (seen : List PlainEvent) : Prop :=
  ∃ before later, seen = before ++ .finished (.ok ()) :: later ∧
    ∀ event ∈ later, event.endsService = false

theorem not_inService_nil : ¬ InService [] := by
  rintro ⟨before, later, split, -⟩
  simp at split

theorem inService_concat_finished (seen : List PlainEvent) :
    InService (seen ++ [.finished (.ok ())]) :=
  ⟨seen, [], rfl, List.forall_mem_nil _⟩

/-- An event that finishes no connect leaves the channel in service, or ends the service. -/
theorem inService_concat {seen : List PlainEvent} {event : PlainEvent}
    (h : event ≠ .finished (.ok ())) :
    InService (seen ++ [event]) ↔ InService seen ∧ event.endsService = false := by
  constructor
  · rintro ⟨before, later, split, quiet⟩
    rcases List.eq_nil_or_concat' later with rfl | ⟨rest, last, rfl⟩
    · obtain ⟨-, same⟩ := List.append_inj' split rfl
      exact absurd (List.cons.inj same).1 h
    · rw [← List.cons_append, ← List.append_assoc] at split
      obtain ⟨rfl, same⟩ := List.append_inj' split rfl
      obtain rfl := (List.cons.inj same).1
      exact ⟨⟨before, rest, rfl, fun other mem => quiet other (List.mem_append_left _ mem)⟩,
        quiet _ (List.mem_append_right _ (List.mem_singleton_self _))⟩
  · rintro ⟨⟨before, later, rfl, quiet⟩, ends⟩
    refine ⟨before, later ++ [event], by simp, fun other mem => ?_⟩
    rcases List.mem_append.1 mem with early | last
    · exact quiet other early
    · rw [List.mem_singleton.1 last]
      exact ends

namespace PlainChannel

/-- The channel after a call. -/
def after (channel : PlainChannel) : PlainCall → PlainChannel
  | .connect target => (channel.connect target).2
  | .finishConnect socket => (channel.finishConnect socket).2
  | .read _ _ => channel
  | .write _ _ => channel
  | .close => channel.close

/-- What a call on the channel comes to. -/
def event (channel : PlainChannel) : PlainCall → PlainEvent
  | .connect target => .connected (channel.connect target).1
  | .finishConnect socket => .finished (channel.finishConnect socket).1
  | .read room answer => .read (channel.read room answer)
  | .write offer answer => .wrote (channel.write offer answer)
  | .close => .closed

/-- What calls one after another come to. -/
def events : PlainChannel → List PlainCall → List PlainEvent
  | _, [] => []
  | channel, call :: later => channel.event call :: events (channel.after call) later

theorem events_concat (channel : PlainChannel) (calls : List PlainCall) (call : PlainCall) :
    channel.events (calls ++ [call]) =
      channel.events calls ++ [(calls.foldl after channel).event call] := by
  induction calls generalizing channel with
  | nil => rfl
  | cons first later ih => exact congrArg (_ :: ·) (ih (channel.after first))

/-- What finishing a connect comes to. -/
inductive Finishes (channel : PlainChannel) (socket : SocketAnswer) :
    Except SocketFault Unit × PlainChannel → Prop where
  | already (connected : channel.state = .connected) : Finishes channel socket (.ok (), channel)
  | done {target : Address} (pending : channel.state = .pending target)
      (connect : socket.connect = .ok ()) (setNodelay : socket.setNodelay = .ok ()) :
      Finishes channel socket (.ok (), { channel with state := .connected })
  | refused {target : Address} {fault : SocketFault} (pending : channel.state = .pending target)
      (connect : socket.connect = .error fault) :
      Finishes channel socket (.error fault, channel.close)
  | delayed {target : Address} {fault : SocketFault} (pending : channel.state = .pending target)
      (connect : socket.connect = .ok ()) (setNodelay : socket.setNodelay = .error fault) :
      Finishes channel socket (.error fault, { channel with state := .connecting })
  | idle (unconnected : channel.state ≠ .connected)
      (aimless : ∀ target, channel.state ≠ .pending target) :
      Finishes channel socket (.error .notConnected, channel.close)

theorem finishes (channel : PlainChannel) (socket : SocketAnswer) :
    channel.Finishes socket (channel.finishConnect socket) := by
  unfold finishConnect
  split
  · rename_i connected
    exact .already connected
  · rename_i target pending
    split
    · rename_i fault connect
      exact .refused pending connect
    · rename_i fault connect setNodelay
      exact .delayed pending connect setNodelay
    · rename_i connect setNodelay
      exact .done pending connect setNodelay
  · rename_i unconnected aimless
    exact .idle unconnected aimless

theorem connect_of_ne_opened {channel : PlainChannel} (h : channel.state ≠ .opened)
    (target : Address) : channel.connect target = (.error .alreadyExists, channel) := by
  unfold connect
  split
  · rename_i opened
    exact absurd opened h
  · rfl

/-- A channel that cannot be connected is left as it was. -/
theorem connect_snd_of_error {channel : PlainChannel} {target : Address} {fault : SocketFault}
    (h : (channel.connect target).1 = .error fault) :
    channel.state ≠ .opened ∧ (channel.connect target).2 = channel := by
  have started : channel.state ≠ .opened := by
    intro opened
    rw [connect, opened] at h
    cases h
  exact ⟨started, by rw [connect_of_ne_opened started]⟩

theorem finishConnect_of_connected {channel : PlainChannel} (h : channel.isConnected = true)
    (socket : SocketAnswer) : channel.finishConnect socket = (.ok (), channel) := by
  have connected : channel.state = .connected := beq_iff_eq.1 h
  rw [finishConnect, connected]

/-- No call takes a closed channel anywhere else. -/
theorem state_after_of_closed {channel : PlainChannel} (h : channel.state = .closed)
    (call : PlainCall) : (channel.after call).state = .closed := by
  cases call with
  | connect target =>
    rw [after, connect_of_ne_opened (by rw [h]; exact PlainState.noConfusion)]
    exact h
  | finishConnect socket =>
    rw [after, finishConnect, h]
  | read room answer | write offer answer => exact h
  | close => rfl

theorem state_foldl_of_closed {channel : PlainChannel} (h : channel.state = .closed)
    (calls : List PlainCall) : (calls.foldl after channel).state = .closed := by
  induction calls generalizing channel with
  | nil => exact h
  | cons call later ih => exact ih (state_after_of_closed h call)

/-! ## Service -/

theorem isConnected_close (channel : PlainChannel) : channel.close.isConnected = false := rfl

/-- A call takes the channel into service, leaves it where it is or takes it out of service, and
what its user sees tells which. -/
theorem isConnected_after {channel : PlainChannel} {seen : List PlainEvent}
    (h : channel.isConnected = true ↔ InService seen) (call : PlainCall) :
    (channel.after call).isConnected = true ↔ InService (seen ++ [channel.event call]) := by
  cases call with
  | connect target =>
    rw [inService_concat (by simp [event]), ← h]
    cases state : channel.state <;> simp [after, event, connect, isConnected, state,
      PlainEvent.endsService]
  | finishConnect socket =>
    have finishes := channel.finishes socket
    rw [after, event]
    generalize channel.finishConnect socket = answer at finishes
    cases finishes with
    | already connected =>
      simp [isConnected, connected, inService_concat_finished]
    | done pending connect setNodelay =>
      simp [isConnected, inService_concat_finished]
    | refused pending connect | idle unconnected aimless =>
      rw [inService_concat (by simp)]
      simp [isConnected_close, PlainEvent.endsService]
    | delayed pending connect setNodelay =>
      rw [inService_concat (by simp)]
      simp [isConnected, PlainEvent.endsService]
  | read room answer | write offer answer =>
    rw [inService_concat (by simp [event]), ← h]
    simp [after, event, PlainEvent.endsService]
  | close =>
    rw [inService_concat (by simp [event])]
    simp [after, event, isConnected_close, PlainEvent.endsService]

/-- A channel is connected just if it is in service by what its user has seen. -/
theorem isConnected_foldl (nodelay : Bool) (calls : List PlainCall) :
    (calls.foldl after { nodelay }).isConnected = true ↔
      InService (events { nodelay } calls) := by
  induction calls using List.reverseRecOn with
  | nil => simp [events, isConnected, not_inService_nil]
  | append_singleton calls call ih =>
    rw [List.foldl_append, events_concat]
    exact isConnected_after ih call

theorem access_eq_socket_iff (channel : PlainChannel) (size : Nat) :
    channel.access size = .socket ↔ 0 < size ∧ channel.isConnected = true := by
  unfold access
  split_ifs with none connected
  · simp [none]
  · simp [connected, Nat.pos_of_ne_zero none]
  · simp [connected]

/-- What the socket answers to a read makes a difference just if the channel is connected and there
is room for something. -/
theorem read_reaches_iff (channel : PlainChannel) (room : Nat) :
    (∃ one other, channel.read room one ≠ channel.read room other) ↔
      channel.access room = .socket := by
  unfold read
  constructor
  · rintro ⟨one, other, differ⟩
    cases access : channel.access room with
    | nothing | refused => simp [access] at differ
    | socket => rfl
  · intro access
    exact ⟨.ok [], .ok [0], by simp [access]⟩

theorem write_reaches_iff (channel : PlainChannel) (offer : Bytes) :
    (∃ one other, channel.write offer one ≠ channel.write offer other) ↔
      channel.access offer.length = .socket := by
  unfold write
  constructor
  · rintro ⟨one, other, differ⟩
    cases access : channel.access offer.length with
    | nothing | refused => simp [access] at differ
    | socket => rfl
  · intro access
    exact ⟨.ok 0, .ok 1, by simp [access]⟩

/-- However a channel is called and whatever its socket answers: when finishing a connect fails, the
channel is closed, unless the socket was connected and refused its delay option, and then it is left
without a socket and counts as pending until it is finished again or closed. The socket is asked to
read or write just if there is something to be moved and the channel is in service. Finishing the
connect of a connected channel changes nothing, nor does a connect that is refused, and a closed
channel stays closed. -/
theorem connect_lifecycle (nodelay : Bool) (calls : List PlainCall) :
    let channel : PlainChannel := calls.foldl after { nodelay }
    let seen := events { nodelay } calls
    (∀ socket fault, (channel.finishConnect socket).1 = .error fault →
      let left := (channel.finishConnect socket).2
      left.state = .closed ∧ left.isConnectionPending = false ∨
      (∃ target, channel.state = .pending target) ∧ socket.connect = .ok () ∧
        socket.setNodelay = .error fault ∧ left.isConnectionPending = true ∧
        left.isConnected = false ∧
        ∀ next, left.finishConnect next = (.error .notConnected, left.close)) ∧
    (∀ room, (∃ one other, channel.read room one ≠ channel.read room other) ↔
      0 < room ∧ InService seen) ∧
    (∀ offer, (∃ one other, channel.write offer one ≠ channel.write offer other) ↔
      0 < offer.length ∧ InService seen) ∧
    (channel.isConnected = true → ∀ socket, channel.finishConnect socket = (.ok (), channel)) ∧
    (∀ target fault, (channel.connect target).1 = .error fault →
      (channel.connect target).2 = channel) ∧
    (channel.state = .closed → ∀ more : List PlainCall, let later := more.foldl after channel
      later.state = .closed ∧ later.isConnectionPending = false ∧ later.isConnected = false) := by
  intro channel seen
  have service : channel.isConnected = true ↔ InService seen := isConnected_foldl nodelay calls
  refine ⟨fun socket fault failed => ?_, fun room => ?_, fun offer => ?_, fun connected =>
    finishConnect_of_connected connected, fun target fault refused =>
    (connect_snd_of_error refused).2, fun closed more => ?_⟩
  · have finishes := channel.finishes socket
    generalize channel.finishConnect socket = answer at finishes failed
    cases finishes with
    | already connected | done pending connect setNodelay => cases failed
    | refused pending connect | idle unconnected aimless => exact .inl ⟨rfl, rfl⟩
    | delayed pending connect setNodelay =>
      cases failed
      exact .inr ⟨⟨_, pending⟩, connect, setNodelay, rfl, rfl, fun next => rfl⟩
  · rw [read_reaches_iff, access_eq_socket_iff, service]
  · rw [write_reaches_iff, access_eq_socket_iff, service]
  · have stays := state_foldl_of_closed closed more
    exact ⟨stays, by rw [isConnectionPending, stays], by rw [isConnected, stays]; rfl⟩

/-- The address of a peer on the same host. -/
def loopback : Address := ⟨.v4 127 0 0 1, 2049⟩

/-- A channel is connected, used and closed; then it is connected no more. Another one is closed
because its connect was refused. -/
theorem connect_lifecycle_used :
    let fine : SocketAnswer := ⟨.ok (), .ok ()⟩
    let refusing : SocketAnswer := ⟨.error .connectionRefused, .ok ()⟩
    let calls : List PlainCall := [.connect loopback, .finishConnect fine, .write [1] (.ok 1)]
    let channel : PlainChannel := calls.foldl after {}
    let aimed : PlainChannel := [PlainCall.connect loopback].foldl after {}
    (channel.connect loopback).2 = channel ∧ channel.finishConnect refusing = (.ok (), channel) ∧
      (∃ one other, channel.read 1 one ≠ channel.read 1 other) ∧
      ([PlainCall.connect loopback].foldl after channel.close).isConnectionPending = false ∧
      (aimed.finishConnect refusing).1 = .error .connectionRefused ∧
      (aimed.finishConnect refusing).2.state = .closed := by
  intro fine refusing calls channel aimed
  have connected : channel.isConnected = true := rfl
  have refused : (channel.connect loopback).1 = .error .alreadyExists := rfl
  have failed : (aimed.finishConnect refusing).1 = .error .connectionRefused := rfl
  obtain ⟨-, read, -, finish, connect, -⟩ := connect_lifecycle true calls
  obtain ⟨-, -, -, -, -, closed⟩ := connect_lifecycle true (calls ++ [.close])
  refine ⟨connect loopback _ refused, finish connected refusing, (read 1).2 ⟨Nat.one_pos, ?_⟩,
    (closed rfl [.connect loopback]).2.1, failed, ?_⟩
  · exact (isConnected_foldl true calls).1 connected
  · rcases (connect_lifecycle true [.connect loopback]).1 refusing _ failed with
      ⟨closed, -⟩ | ⟨-, connected, -⟩
    · exact closed
    · cases connected

/-- A connected socket that refuses its delay option leaves the channel pending. -/
theorem refused_delay_leaves_pending :
    ¬ ∀ (nodelay : Bool) (calls : List PlainCall) (socket : SocketAnswer) (fault : SocketFault),
      let channel : PlainChannel := calls.foldl after { nodelay }
      (channel.finishConnect socket).1 = .error fault →
        (channel.finishConnect socket).2.state = .closed ∧
          (channel.finishConnect socket).2.isConnectionPending = false := by
  intro closes
  obtain ⟨closed, -⟩ := closes true [.connect loopback]
    ⟨.ok (), .error (.other "invalid argument")⟩ _ rfl
  cases closed

end PlainChannel

end RemoteCall
