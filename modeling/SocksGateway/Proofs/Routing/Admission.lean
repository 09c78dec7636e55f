import SocksGateway.Session.Basic

/-!
To which addresses a policy admits a user. A private address is for the members of its networks,
however a target leads there: as an address, as the text of one, as the name of a private host, or as
a name for which a resolver gives it.
-/

set_option autoImplicit false

namespace SocksGateway.RoutePolicy

/-- A private address is only for a user who has a name and shares a network with it. -/
def Admits (policy : RoutePolicy) (user : Option String) (ip : Ip) : Prop :=
  ip.isPrivate = true → ∃ name, user = some name ∧ name ≠ "" ∧
    PrivateNetwork.anyJoins policy.networks name ip = true

variable {policy : RoutePolicy} {user : Option String} {endpoint : Endpoint}

theorem authorizePrivate_eq_allowed {ip : Ip}
    (allowed : policy.authorizePrivate ip user = .allowed) :
    ∃ name, user = some name ∧ name ≠ "" ∧
      PrivateNetwork.anyJoins policy.networks name ip = true := by
  cases user with
  | none => cases allowed
  | some name =>
    simp only [authorizePrivate] at allowed
    split at allowed
    · cases allowed
    · rename_i present
      split at allowed
      · rename_i joins
        refine ⟨name, rfl, ?_, joins⟩
        rintro rfl
        exact present rfl
      · cases allowed

theorem admits_of_authorize {target : Target} (allowed : policy.authorize target user = .allowed)
    (given : target = .ip endpoint) : policy.Admits user endpoint.ip := by
  intro isPrivate
  subst given
  rw [authorize, if_pos isPrivate] at allowed
  exact authorizePrivate_eq_allowed allowed

/-- The second look: a resolver's answer is subject to membership again. -/
theorem admits_of_conclude {name : String} {port : UInt16} {answer : Option Ip}
    (found : policy.conclude name port user answer = .ok endpoint) :
    policy.Admits user endpoint.ip := by
  intro isPrivate
  cases answer with
  | none => cases found
  | some ip =>
    simp only [conclude] at found
    split at found
    · split at found
      · rename_i allowed
        cases found
        exact authorizePrivate_eq_allowed allowed
      · cases found
    · rename_i isPublic
      cases found
      exact absurd isPrivate isPublic

theorem admits_of_plan {target : Target}
    (settled : policy.plan target user = .settled (.ok endpoint)) :
    policy.Admits user endpoint.ip := by
  dsimp only [plan] at settled
  split at settled
  · cases settled
  · rename_i allowed
    split at settled
    · rename_i given
      cases settled
      exact admits_of_authorize allowed given
    · split at settled
      · injection settled with found
        exact admits_of_conclude found
      · cases settled

/-- Whatever the resolver answers. -/
theorem admits_of_route {resolver : Resolver} {target : Target}
    (routed : policy.route resolver target user = .ok endpoint) :
    policy.Admits user endpoint.ip := by
  unfold route at routed
  split at routed
  · rename_i result settled
    subst routed
    exact admits_of_plan settled
  · exact admits_of_conclude routed

/-- Without a name, nobody is admitted to a private address. -/
theorem admits_none_iff {ip : Ip} : policy.Admits none ip ↔ ip.isPrivate = false := by
  constructor
  · intro admitted
    cases isPrivate : ip.isPrivate with
    | false => rfl
    | true =>
      obtain ⟨name, known, _⟩ := admitted isPrivate
      cases known
  · intro isPublic isPrivate
    rw [isPublic] at isPrivate
    cases isPrivate

end SocksGateway.RoutePolicy
