import SocksGateway.Proofs.Routing.Admission

/-!
Where an association sends what its client gives it. A route that it remembers was admitted when it
was found, and its user and its policy stay the same, so that remembering opens no way around the
policy.
-/

set_option autoImplicit false

namespace SocksGateway

open RoutePolicy (admits_of_route)

namespace Association

/-- What becomes of datagrams one after another, each of which meets with a resolver of its own. -/
def runWith : List (Resolver × Arrival) → Association → List Forwarding × Association
  | [], association => ([], association)
  | (resolver, arrival) :: arrivals, association =>
    let (forwarding, association) := association.react resolver arrival
    let (forwardings, association) := runWith arrivals association
    (forwarding :: forwardings, association)

/-- A run is one in which the resolver stays the same. -/
theorem run_eq_runWith (resolver : Resolver) (arrivals : List Arrival) (association : Association) :
    association.run resolver arrivals = association.runWith (arrivals.map (resolver, ·)) := by
  induction arrivals generalizing association with
  | nil => rfl
  | cons arrival arrivals ih => simp only [run, List.map_cons, runWith, ih]

/-- An association for this user under this policy, with no route to which the user is not
admitted. -/
structure IsAdmitted (policy : RoutePolicy) (user : Option String) (association : Association) :
    Prop where
  policy_eq : association.terms.policy = policy
  user_eq : association.terms.user = user
  routes : ∀ entry ∈ association.routes, policy.Admits user entry.2.ip

end Association

/-- A payload that goes out goes where the policy admits the user. -/
def Forwarding.IsAdmitted (policy : RoutePolicy) (user : Option String) : Forwarding → Prop
  | .outward destination _ _ => policy.Admits user destination.ip
  | _ => True

namespace Association

variable {policy : RoutePolicy} {user : Option String} {association : Association}

theorem isAdmitted_start {terms : AssociationTerms} (samePolicy : terms.policy = policy)
    (sameUser : terms.user = user) : (start terms).IsAdmitted policy user := by
  refine ⟨samePolicy, sameUser, ?_⟩
  intro entry member
  cases member

/-- A route that is remembered is as good as a new one. -/
theorem isAdmitted_route (resolver : Resolver) (target : Target)
    (sound : association.IsAdmitted policy user) :
    (association.route resolver target).2.IsAdmitted policy user ∧
      ∀ endpoint, (association.route resolver target).1 = some endpoint →
        policy.Admits user endpoint.ip := by
  unfold route
  split
  · rename_i remembered found
    refine ⟨sound, ?_⟩
    intro endpoint same
    cases same
    obtain ⟨_, _, parts, _⟩ := List.lookup_eq_some_iff.mp found
    apply sound.routes (target, remembered)
    simp only [parts, List.mem_append, List.mem_cons, true_or, or_true]
  · split
    · refine ⟨sound, ?_⟩
      intro endpoint same
      cases same
    · rename_i endpoint routed
      -- What is asked is the policy of the start, for the user of the start.
      rw [sound.policy_eq, sound.user_eq] at routed
      have admitted : policy.Admits user endpoint.ip := admits_of_route routed
      split
      · refine ⟨sound, ?_⟩
        intro other same
        cases same
        exact admitted
      · refine ⟨⟨sound.policy_eq, sound.user_eq, ?_⟩, ?_⟩
        · exact List.forall_mem_cons.mpr ⟨admitted, sound.routes⟩
        · intro other same
          cases same
          exact admitted

theorem isAdmitted_outward (resolver : Resolver) (source : Endpoint) (datagram : Bytes)
    (sound : association.IsAdmitted policy user) :
    (association.outward resolver source datagram).1.IsAdmitted policy user ∧
      (association.outward resolver source datagram).2.IsAdmitted policy user := by
  unfold outward
  split
  · exact ⟨trivial, sound⟩
  · rename_i packet _
    split
    · exact ⟨trivial, sound⟩
    · have routed := isAdmitted_route resolver packet.address sound
      split
      · rename_i after found
        rw [found] at routed
        exact ⟨trivial, routed.1⟩
      · rename_i destination after found
        rw [found] at routed
        exact ⟨routed.2 destination rfl, routed.1⟩

/-- The client may become known by a datagram, but its policy and its user do not change. -/
theorem isAdmitted_receive (resolver : Resolver) (source : Endpoint) (datagram : Bytes)
    (sound : association.IsAdmitted policy user) :
    (association.receive resolver source datagram).1.IsAdmitted policy user ∧
      (association.receive resolver source datagram).2.IsAdmitted policy user := by
  unfold receive
  split
  · exact isAdmitted_outward resolver source datagram ⟨sound.policy_eq, sound.user_eq, sound.routes⟩
  · refine ⟨?_, sound⟩
    unfold inward
    split <;> exact trivial

theorem isAdmitted_sent (forwarding : Forwarding) (sound : association.IsAdmitted policy user) :
    (association.sent forwarding).IsAdmitted policy user := by
  unfold sent
  split
  · exact ⟨sound.policy_eq, sound.user_eq, sound.routes⟩
  · exact sound

theorem isAdmitted_react (resolver : Resolver) (arrival : Arrival)
    (sound : association.IsAdmitted policy user) :
    (association.react resolver arrival).1.IsAdmitted policy user ∧
      (association.react resolver arrival).2.IsAdmitted policy user := by
  obtain ⟨forwarded, after⟩ := isAdmitted_receive resolver arrival.source arrival.datagram sound
  refine ⟨forwarded, ?_⟩
  unfold react
  dsimp only
  split
  · exact isAdmitted_sent _ after
  · exact after

/-- In any order of datagrams, whatever the resolver answers to each of them. -/
theorem isAdmitted_runWith (arrivals : List (Resolver × Arrival))
    (sound : association.IsAdmitted policy user) :
    (∀ forwarding ∈ (association.runWith arrivals).1, forwarding.IsAdmitted policy user) ∧
      (association.runWith arrivals).2.IsAdmitted policy user := by
  induction arrivals generalizing association with
  | nil =>
    refine ⟨?_, sound⟩
    intro forwarding member
    cases member
  | cons head arrivals ih =>
    obtain ⟨resolver, arrival⟩ := head
    obtain ⟨forwarded, after⟩ := isAdmitted_react resolver arrival sound
    obtain ⟨others, last⟩ := ih after
    exact ⟨List.forall_mem_cons.mpr ⟨forwarded, others⟩, last⟩

end Association

end SocksGateway
