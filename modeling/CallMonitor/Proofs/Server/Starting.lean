import CallMonitor.Server.Start

/-!
The choice of a port. A search tries ports from the front of its list until an attempt brings a
server or an error other than a port that is taken, whatever the attempts are and whatever they do
to the state they work on. On a network the first port that is not in use decides; it is the only
one that is bound, and a start that fails leaves the network as it was.
-/

namespace CallMonitor.Server

section Search

variable {σ α : Type}

/-- What one attempt on a port comes to. -/
abbrev Answer (α : Type) := Except StartError (Option α)

/-- An attempt, with a note of every port it is made on and of what it came to. -/
def noting (attempt : σ → Nat → Answer α × σ) (state : σ × List (Nat × Answer α)) (port : Nat) :
    Answer α × σ × List (Nat × Answer α) :=
  let (answer, later) := attempt state.1 port
  (answer, later, state.2 ++ [(port, answer)])

/-- How a search goes through its ports: the attempts that are made and the result. -/
inductive Searched (all : List Nat) :
    List Nat → List (Nat × Answer α) → Except StartError (Nat × α) → Prop
  | exhausted : Searched all [] [] (.error (.noPortsAvailable all))
  | started (port : Nat) (value : α) (rest : List Nat) :
      Searched all (port :: rest) [(port, .ok (some value))] (.ok (port, value))
  | failed (port : Nat) (error : StartError) (rest : List Nat) :
      Searched all (port :: rest) [(port, .error error)] (.error error)
  | taken (port : Nat) {rest : List Nat} {tried : List (Nat × Answer α)}
      {result : Except StartError (Nat × α)} (later : Searched all rest tried result) :
      Searched all (port :: rest) ((port, .ok none) :: tried) result

/-- Notes change nothing about a search, and tell how it went. -/
theorem try_ports_searched (attempt : σ → Nat → Answer α × σ) (all ports : List Nat) (state : σ)
    (earlier : List (Nat × Answer α)) :
    ∃ result later tried, tryPorts attempt all state ports = (result, later) ∧
      tryPorts (noting attempt) all (state, earlier) ports = (result, later, earlier ++ tried) ∧
      Searched all ports tried result := by
  induction ports generalizing state earlier with
  | nil => exact ⟨_, _, [], rfl, by rw [List.append_nil]; rfl, .exhausted⟩
  | cons port rest ih =>
      rw [tryPorts, tryPorts, noting]
      generalize attempt state port = attempted
      rcases attempted with ⟨error | _ | value, later⟩
      · exact ⟨_, _, _, rfl, rfl, .failed port error rest⟩
      · obtain ⟨result, last, tried, plain, noted, searched⟩ :=
          ih later (earlier ++ [(port, .ok none)])
        rw [List.append_assoc] at noted
        exact ⟨_, _, _, plain, noted, .taken port searched⟩
      · exact ⟨_, _, _, rfl, rfl, .started port value rest⟩

namespace Searched

variable {all ports : List Nat} {tried : List (Nat × Answer α)}
  {result : Except StartError (Nat × α)}

/-- Ports are tried from the front, and none is passed over. -/
theorem tried_in_order (searched : Searched all ports tried result) :
    tried.map Prod.fst <+: ports := by
  induction searched with
  | exhausted => exact List.nil_prefix
  | started | failed => exact List.prefix_append _ _
  | taken port later ih => exact (List.prefix_cons_inj port).mpr ih

/-- Only the last attempt may come to something. -/
theorem earlier_taken (searched : Searched all ports tried result) :
    ∀ attempt ∈ tried.dropLast, attempt.2 = .ok none := by
  induction searched with
  | exhausted | started | failed => simp
  | @taken port rest tried result later ih =>
      intro attempt among
      cases tried with
      | nil => simp at among
      | cons next tried =>
          rw [List.dropLast_cons_of_ne_nil (List.cons_ne_nil next tried)] at among
          rcases List.mem_cons.mp among with rfl | inside
          · rfl
          · exact ih attempt inside

/-- The last attempt decides; if it found its port taken, or none was made, no port is left. -/
theorem last_decides (searched : Searched all ports tried result) :
    match tried.getLast? with
    | some (port, .ok (some value)) => result = .ok (port, value)
    | some (_, .error error) => result = .error error
    | _ => tried = ports.map (·, .ok none) ∧ result = .error (.noPortsAvailable all) := by
  induction searched with
  | exhausted => exact ⟨rfl, rfl⟩
  | started | failed => rfl
  | @taken port rest tried result later ih =>
      cases tried with
      | nil =>
          obtain ⟨untried, failed⟩ := ih
          exact ⟨congrArg _ untried, failed⟩
      | cons next tried =>
          rw [List.getLast?_cons_cons]
          split at ih
          · exact ih
          · exact ih
          · obtain ⟨taken, failed⟩ := ih
            exact ⟨congrArg _ taken, failed⟩

end Searched

end Search

section Network

variable {Req : Type} {options : Options}

/-- What a start tells while it finds one port after the other in use. -/
def taking (ports : List Nat) : List Notice :=
  ports.flatMap fun port => [.starting port, .portTaken port]

theorem start_on_taken {ground : Ground} {port : Nat}
    (taken : ground.network.bind ⟨options.address, port⟩ = .error .addressInUse) :
    @startOn Req options ground port =
      (.ok none, ⟨ground.network, ground.notices ++ [.starting port, .portTaken port]⟩) := by
  simp [startOn, Ground.tell, taken]

theorem start_on_free {ground : Ground} {port : Nat} {endpoint : Net.Endpoint}
    (free : ground.network.bind ⟨options.address, port⟩ = .ok endpoint) :
    @startOn Req options ground port =
      (.ok (some (.bound endpoint.port options)), ⟨ground.network.adding endpoint,
        ground.notices ++ [.starting port, .started port endpoint.toText]⟩) := by
  simp [startOn, Ground.tell, Ground.adding, free]

theorem start_on_refused {ground : Ground} {port : Nat} {reason : SystemError}
    (refused : ground.network.bind ⟨options.address, port⟩ = .error reason)
    (hard : reason ≠ .addressInUse) :
    @startOn Req options ground port =
      (.error (.bindFailed port reason), ⟨ground.network, ground.notices ++ [.starting port]⟩) := by
  simp [startOn, Ground.tell, refused]

/-- Ports that are in use are passed over, and the network stays as it is. -/
theorem try_ports_taken (all rest : List Nat) {busy : List Nat} {ground : Ground}
    (taken : ∀ port ∈ busy,
      ground.network.bind ⟨options.address, port⟩ = .error .addressInUse) :
    tryPorts (@startOn Req options) all ground (busy ++ rest) =
      tryPorts (startOn options) all ⟨ground.network, ground.notices ++ taking busy⟩ rest := by
  induction busy generalizing ground with
  | nil => simp [taking]
  | cons port busy ih =>
      rw [List.cons_append, tryPorts, start_on_taken (taken port List.mem_cons_self)]
      have later := @ih ⟨ground.network, ground.notices ++ [.starting port, .portTaken port]⟩
        fun other among => taken other (List.mem_cons_of_mem _ among)
      simpa [taking] using later

/-- Whether a port is in use at an address, so far as a start can tell. -/
def InUse (network : Net.Network) (address : Net.Address) (port : Nat) : Prop :=
  network.bind ⟨address, port⟩ = .error .addressInUse

theorem in_use_iff {network : Net.Network} {address : Net.Address} {port : Nat} :
    InUse network address port ↔
      network.refusal ⟨address, port⟩ = some .addressInUse ∨
        network.refusal ⟨address, port⟩ = none ∧
          if port = 0 then ∀ spare ∈ network.spare, network.isTaken ⟨address, spare⟩ = true
          else network.isTaken ⟨address, port⟩ = true := by
  unfold InUse Net.Network.bind
  cases network.refusal ⟨address, port⟩ with
  | some reason => simp
  | none =>
      by_cases zero : port = 0
      · subst zero
        have full : (∀ spare ∈ network.spare, network.isTaken ⟨address, spare⟩ = true) ↔
            network.freePort address = none := by
          simp [Net.Network.freePort]
        simp only [if_true, full]
        cases network.freePort address <;> simp
      · cases taken : network.isTaken ⟨address, port⟩ <;> simp [zero]

theorem address_of_bind {network : Net.Network} {asked endpoint : Net.Endpoint}
    (bound : network.bind asked = .ok endpoint) : endpoint.address = asked.address := by
  unfold Net.Network.bind at bound
  split at bound
  · cases bound
  · split at bound
    · split at bound <;> cases bound
      rfl
    · split at bound <;> cases bound
      rfl

/-- How a start ends, with what it tells. The network has one listener more if a port is free that
comes after ports in use only, and is as before in every other case. -/
inductive StartEnds (settings : ServerSettings) (processId : Nat) (ground : Ground) :
    Except StartError (Loop Req) × Ground → Prop
  | started {busy rest : List Nat} {port : Nat} {endpoint : Net.Endpoint}
      (split : settings.ports = busy ++ port :: rest)
      (taken : ∀ earlier ∈ busy, InUse ground.network settings.address earlier)
      (free : ground.network.bind ⟨settings.address, port⟩ = .ok endpoint) :
      StartEnds settings processId ground
        (.ok (.bound endpoint.port settings.options), ⟨ground.network.adding endpoint,
          ground.notices ++ [.choosing] ++ taking busy ++
            [.starting port, .started port endpoint.toText, .chosen port processId]⟩)
  | refused {busy rest : List Nat} {port : Nat} {reason : SystemError}
      (split : settings.ports = busy ++ port :: rest)
      (taken : ∀ earlier ∈ busy, InUse ground.network settings.address earlier)
      (refused : ground.network.bind ⟨settings.address, port⟩ = .error reason)
      (hard : reason ≠ .addressInUse) :
      StartEnds settings processId ground
        (.error (.bindFailed port reason), ⟨ground.network,
          ground.notices ++ [.choosing] ++ taking busy ++ [.starting port]⟩)
  | exhausted
      (taken : ∀ port ∈ settings.ports, InUse ground.network settings.address port) :
      StartEnds settings processId ground
        (.error (.noPortsAvailable settings.ports), ⟨ground.network,
          ground.notices ++ [.choosing] ++ taking settings.ports⟩)

/-- All ports of a list are of a kind, or there is a first one that is not. -/
theorem split_at_first (kind : Nat → Prop) (ports : List Nat) :
    (∀ port ∈ ports, kind port) ∨ ∃ before port after,
      ports = before ++ port :: after ∧ (∀ earlier ∈ before, kind earlier) ∧ ¬kind port := by
  induction ports with
  | nil => exact .inl (by simp)
  | cons first rest ih =>
      by_cases same : kind first
      · rcases ih with all | ⟨before, port, after, rfl, earlier, other⟩
        · exact .inl (List.forall_mem_cons.mpr ⟨same, all⟩)
        · exact .inr ⟨first :: before, port, after, rfl,
            List.forall_mem_cons.mpr ⟨same, earlier⟩, other⟩
      · exact .inr ⟨[], first, rest, rfl, by simp, same⟩

theorem start_monitor_ends (settings : ServerSettings) (processId : Nat) (ground : Ground) :
    @StartEnds Req settings processId ground (startMonitor settings processId ground) := by
  rcases split_at_first (InUse ground.network settings.address) settings.ports with
    taken | ⟨busy, port, rest, split, taken, other⟩
  · have passed := @try_ports_taken Req settings.options settings.ports [] _
      (ground.tell .choosing) taken
    rw [List.append_nil] at passed
    rw [startMonitor, startFirst, passed]
    exact .exhausted taken
  · have passed := @try_ports_taken Req settings.options settings.ports (port :: rest) _
      (ground.tell .choosing) taken
    rw [← split] at passed
    rw [startMonitor, startFirst, passed, tryPorts]
    cases bound : ground.network.bind ⟨settings.address, port⟩ with
    | ok endpoint =>
        rw [start_on_free bound]
        have ends := @StartEnds.started Req settings processId ground _ _ _ _ split taken bound
        simpa [Ground.tell] using ends
    | error reason =>
        have hard : reason ≠ .addressInUse := by
          rintro rfl
          exact other bound
        rw [start_on_refused bound hard]
        exact .refused split taken bound hard

end Network

/-- A search tries its ports in order and goes on only after a port that is taken. The last attempt
decides: what it started is the result with its port, or its error is; if it found its port taken,
too, or no attempt was made, all ports have been tried and the result says which.

So a monitor's server comes to listen at the first port that is not in use, or fails with the reason
for which the network refuses that port. Nobody else comes to listen. A port is in use if somebody
listens there; "any port" is, if somebody listens at each of those that may be handed out. -/
theorem port_search_decided :
    (∀ (σ α : Type) (attempt : σ → Nat → Answer α × σ) (ports : List Nat) (state : σ),
      ∃ result later tried, startFirst attempt ports state = (result, later) ∧
        startFirst (noting attempt) ports (state, []) = (result, later, tried) ∧
        tried.map Prod.fst <+: ports ∧ (∀ made ∈ tried.dropLast, made.2 = .ok none) ∧
        match tried.getLast? with
        | some (port, .ok (some value)) => result = .ok (port, value)
        | some (_, .error error) => result = .error error
        | _ => tried = ports.map (·, .ok none) ∧ result = .error (.noPortsAvailable ports)) ∧
    (∀ (Req : Type) (settings : ServerSettings) (processId : Nat) (ground : Ground),
      @StartEnds Req settings processId ground (startMonitor settings processId ground)) ∧
    ∀ (network : Net.Network) (address : Net.Address) (port : Nat),
      InUse network address port ↔
        network.refusal ⟨address, port⟩ = some .addressInUse ∨
          network.refusal ⟨address, port⟩ = none ∧
            if port = 0 then ∀ spare ∈ network.spare, network.isTaken ⟨address, spare⟩ = true
            else network.isTaken ⟨address, port⟩ = true := by
  refine ⟨?_, ?_, ?_⟩
  · intro σ α attempt ports state
    obtain ⟨result, later, tried, plain, noted, searched⟩ :=
      try_ports_searched attempt ports ports state []
    exact ⟨result, later, tried, plain, noted, searched.tried_in_order, searched.earlier_taken,
      searched.last_decides⟩
  · intro Req settings processId ground
    exact start_monitor_ends settings processId ground
  · intro network address port
    exact in_use_iff

/-- Attempts that answer in turn, whatever their port. -/
def inTurn (answers : List (Answer Nat)) (_port : Nat) : Answer Nat × List (Answer Nat) :=
  (answers.headD (.ok none), answers.tail)

theorem repeated_port_searched :
    startFirst inTurn [7, 7, 8] [.ok none, .ok (some 5), .error (.handshakeLost 8)] =
        (.ok (7, 5), [.error (.handshakeLost 8)]) ∧
      ∃ tried : List (Nat × Answer Nat), tried.map Prod.fst = [7, 7] ∧
        (7, .ok none) ∈ tried.dropLast ∧ ∀ made ∈ tried.dropLast, made.2 = .ok none := by
  obtain ⟨result, later, tried, -, noted, -, earlier, -⟩ := port_search_decided.1 _ _ inTurn
    [7, 7, 8] [.ok none, .ok (some 5), .error (.handshakeLost 8)]
  cases noted
  exact ⟨rfl, _, rfl, List.mem_cons_self, earlier⟩

end CallMonitor.Server
