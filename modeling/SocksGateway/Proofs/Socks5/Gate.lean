import SocksGateway.Proofs.Gss.Exchange
import SocksGateway.Proofs.Socks5.Authentication
import SocksGateway.Proofs.Socks5.Formats

/-!
The gate of version 5. A client comes to its request only through a method that is registered, allowed
and offered, the least of these, and only when the exchange of that method has succeeded. Before, and
if it does not come to that, nothing is sent but the choice of the method and its own messages.
-/

set_option autoImplicit false

namespace SocksGateway.Socks5

open Handler

/-! ## The selection of a method -/

namespace Authenticator

variable {registered : List Authenticator} {allowed : Bytes}

theorem distinct_sublist (given : List Authenticator) : (offering.distinct given).Sublist given := by
  induction given with
  | nil => exact .slnil
  | cons first rest ih =>
    unfold offering.distinct
    split
    · exact .cons_cons _ (List.nil_sublist _)
    · rename_i second others kept
      rw [kept] at ih
      split
      · exact .cons_cons _ ((List.sublist_cons_self second others).trans ih)
      · exact .cons_cons _ ih

/-- No method is lost where those of one method stand together. -/
theorem exists_mem_distinct {given : List Authenticator} {authenticator : Authenticator}
    (member : authenticator ∈ given) :
    ∃ kept ∈ offering.distinct given, kept.method = authenticator.method := by
  induction given with
  | nil => cases member
  | cons first rest ih =>
    unfold offering.distinct
    rcases List.mem_cons.mp member with rfl | inside
    · split
      · exact ⟨_, List.mem_cons_self, rfl⟩
      · split <;> exact ⟨_, List.mem_cons_self, rfl⟩
    · obtain ⟨kept, present, same⟩ := ih inside
      split
      · rename_i none
        rw [none] at present
        cases present
      · rename_i second others some
        rw [some] at present
        split
        · rename_i equal
          rcases List.mem_cons.mp present with rfl | later
          · exact ⟨first, List.mem_cons_self, equal.trans same⟩
          · exact ⟨kept, List.mem_cons_of_mem _ later, same⟩
        · exact ⟨kept, List.mem_cons_of_mem _ present, same⟩

theorem mem_offering {authenticator : Authenticator}
    (member : authenticator ∈ offering registered allowed) :
    authenticator ∈ registered ∧ authenticator.method ∈ allowed := by
  have inside := (distinct_sublist _).subset member
  rw [List.mem_mergeSort, List.mem_filter, List.contains_iff_mem] at inside
  exact inside

theorem exists_mem_offering {authenticator : Authenticator} (member : authenticator ∈ registered)
    (isAllowed : authenticator.method ∈ allowed) :
    ∃ kept ∈ offering registered allowed, kept.method = authenticator.method := by
  apply exists_mem_distinct
  rw [List.mem_mergeSort, List.mem_filter, List.contains_iff_mem]
  exact ⟨member, isAllowed⟩

theorem method_le_trans (first second third : Authenticator)
    (lower : decide (first.method ≤ second.method) = true)
    (upper : decide (second.method ≤ third.method) = true) :
    decide (first.method ≤ third.method) = true := by
  rw [decide_eq_true_eq] at lower upper ⊢
  exact UInt8.le_trans lower upper

theorem method_le_total (first second : Authenticator) :
    (decide (first.method ≤ second.method) || decide (second.method ≤ first.method)) = true := by
  rw [Bool.or_eq_true, decide_eq_true_eq, decide_eq_true_eq]
  exact UInt8.le_total first.method second.method

theorem mergeSort_pairwise (given : List Authenticator) :
    (given.mergeSort fun first second => first.method ≤ second.method).Pairwise
      fun first second => first.method ≤ second.method := by
  have sorted := List.pairwise_mergeSort method_le_trans method_le_total given
  simpa only [decide_eq_true_eq] using sorted

theorem offering_pairwise (registered : List Authenticator) (allowed : Bytes) :
    (offering registered allowed).Pairwise fun first second => first.method ≤ second.method :=
  (mergeSort_pairwise _).sublist (distinct_sublist _)

end Authenticator

/-- The authenticator for what a client offers: its method is the least of those that are registered,
allowed and offered. -/
structure Selected (registered : List Authenticator) (allowed offered : Bytes)
    (authenticator : Authenticator) : Prop where
  member : authenticator ∈ registered
  isAllowed : authenticator.method ∈ allowed
  isOffered : authenticator.method ∈ offered
  least : ∀ other ∈ registered, other.method ∈ allowed → other.method ∈ offered →
    authenticator.method ≤ other.method

section Selection

variable {registered : List Authenticator} {allowed offered : Bytes}
  {authenticator : Authenticator}

theorem selected_of_select
    (selected : Authenticator.select (Authenticator.offering registered allowed) offered =
      some authenticator) : Selected registered allowed offered authenticator := by
  obtain ⟨found, before, behind, split, earlier⟩ := List.find?_eq_some_iff_append.mp selected
  have sorted := Authenticator.offering_pairwise registered allowed
  have member : authenticator ∈ Authenticator.offering registered allowed :=
    List.mem_of_find?_eq_some selected
  obtain ⟨isRegistered, isAllowed⟩ := Authenticator.mem_offering member
  refine ⟨isRegistered, isAllowed, List.contains_iff_mem.mp found, ?_⟩
  intro other otherRegistered otherAllowed otherOffered
  obtain ⟨kept, inside, same⟩ :=
    Authenticator.exists_mem_offering otherRegistered otherAllowed
  rw [← same] at otherOffered ⊢
  rw [split] at inside sorted
  rcases List.mem_append.mp inside with early | late
  · have passed := earlier kept early
    rw [List.contains_iff_mem.mpr otherOffered] at passed
    cases passed
  · rcases List.mem_cons.mp late with rfl | later
    · exact UInt8.le_refl _
    · exact (List.pairwise_cons.mp (List.pairwise_append.mp sorted).2.1).1 kept later

theorem not_offered_of_select
    (missing : Authenticator.select (Authenticator.offering registered allowed) offered = none)
    (member : authenticator ∈ registered) (isAllowed : authenticator.method ∈ allowed) :
    authenticator.method ∉ offered := by
  intro isOffered
  obtain ⟨kept, inside, same⟩ := Authenticator.exists_mem_offering member isAllowed
  have passed := List.find?_eq_none.mp missing kept inside
  rw [same, List.contains_iff_mem] at passed
  exact passed isOffered

/-- What is selected has the method that every other choice by the same rule has. -/
theorem exists_select_of_selected (selected : Selected registered allowed offered authenticator) :
    ∃ found, Authenticator.select (Authenticator.offering registered allowed) offered = some found ∧
      found.method = authenticator.method := by
  cases given : Authenticator.select (Authenticator.offering registered allowed) offered with
  | none =>
    exact absurd selected.isOffered
      (not_offered_of_select given selected.member selected.isAllowed)
  | some found =>
    have other := selected_of_select given
    exact ⟨found, rfl, UInt8.le_antisymm
      (other.least authenticator selected.member selected.isAllowed selected.isOffered)
      (selected.least found other.member other.isAllowed other.isOffered)⟩

end Selection

/-! ## The exchange of a method -/

/-- What the gateway sends in the exchange of a method. -/
def Authenticator.IsMessage : Authenticator → Bytes → Prop
  | .none, _ => False
  | .gss _, octets => Gss.IsMessage octets
  | .password _, octets => octets = [1, 0] ∨ octets = [1, 1]

/-- The exchange of a method that succeeds: what is heard and told, the name that the client has then,
and the protection that covers what follows. -/
inductive Authenticator.Accepts : Authenticator → Bytes → List Bytes → Option String →
    Option Gss.Protection → Prop where
  | none : Accepts .none [] [] .none .none
  | gss {context : Gss.Context} {name : String} {protection : Gss.Protection} {heard : Bytes}
      {told : List Bytes} (negotiates : Gss.Negotiates context name protection heard told) :
      Accepts (.gss context) heard told (some name) (some protection)
  | password {accepts : String → String → Bool} {user password : String}
      (writable : Password.AreWritable user password) (accepted : accepts user password = true) :
      Accepts (.password accepts) (Password.credentials user password) [[1, 0]] (some user) .none

variable {start dialogue : Dialogue}

theorem Password.isMessage_iff {accepts : String → String → Bool} {octets : Bytes} :
    (Authenticator.password accepts).IsMessage octets ↔ ∃ accepted, octets = status accepted := by
  constructor
  · rintro (rfl | rfl)
    · exact ⟨true, rfl⟩
    · exact ⟨false, rfl⟩
  · rintro ⟨accepted, rfl⟩
    cases accepted with
    | true => exact .inl rfl
    | false => exact .inr rfl

theorem Password.negotiate_converses (accepts : String → String → Bool)
    (extended : Dialogue.Extends (Authenticator.password accepts).IsMessage start dialogue) :
    Converses (Authenticator.password accepts).IsMessage start
      (fun user after => ∃ password, AreWritable user password ∧ accepts user password = true ∧
        after = dialogue.pass (credentials user password) [[1, 0]])
      (negotiate accepts) dialogue := by
  apply keeps_bind (converses_outcome (readCredentials_format.converses extended))
  rintro (failure | ⟨user, password⟩) between reached
  · dsimp only at reached ⊢
    apply keeps_unless (fun _ => reached)
    intro _
    apply keeps_bind (write_converses (.inr rfl) reached)
    rintro _ _ ⟨rfl, sent⟩
    exact keeps_throw sent
  · obtain ⟨octets, rfl, writable, rfl⟩ := reached
    dsimp only
    apply keeps_bind (write_converses (isMessage_iff.mpr ⟨_, rfl⟩) (extended.hear _))
    rintro _ _ ⟨rfl, sent⟩
    cases accepted : accepts user password with
    | true => exact ⟨password, writable, accepted, rfl⟩
    | false =>
      rw [accepted] at sent
      exact sent

/-- The dialogue after an exchange that may have led to a protection. -/
def covered (cover : Option Gss.Protection) (dialogue : Dialogue) : Dialogue :=
  { dialogue with cover := cover.or dialogue.cover }

/-- What happens while a client authenticates itself: the messages of the method, and in the end a
security context may cover what follows. -/
def Authenticator.Engages (authenticator : Authenticator) (start dialogue : Dialogue)
    (deed : Deed) : Prop :=
  Dialogue.Extends authenticator.IsMessage start dialogue ∧
    (deed.IsExchange authenticator.IsMessage ∨
      ∃ context protection, authenticator = .gss context ∧ deed = .protect protection)

theorem Authenticator.keeps_of_converses {α : Type} {authenticator : Authenticator}
    {post : α → Dialogue → Prop} {handler : Handler α}
    (converses : Converses authenticator.IsMessage start post handler dialogue) :
    Keeps (authenticator.Engages start)
      (fun _ => Dialogue.Extends authenticator.IsMessage start) post handler dialogue :=
  keeps_mono converses (fun _ _ held => ⟨held.1, .inl held.2⟩) (fun _ _ held => held)
    fun _ _ held => held

theorem Authenticator.authenticate_keeps (own : Option Endpoint) (authenticator : Authenticator)
    (extended : Dialogue.Extends authenticator.IsMessage start dialogue) :
    Keeps (authenticator.Engages start)
      (fun _ => Dialogue.Extends authenticator.IsMessage start)
      (fun authenticated after => ∃ heard told cover,
        authenticator.Accepts heard told authenticated.user cover ∧
          after = covered cover (dialogue.pass heard told))
      (authenticator.authenticate own) dialogue := by
  cases authenticator with
  | none => exact ⟨[], [], .none, .none, by rw [Dialogue.pass_nil]; rfl⟩
  | password accepts =>
    apply keeps_bind (keeps_of_converses (Password.negotiate_converses accepts extended))
    rintro user _ ⟨password, writable, accepted, rfl⟩
    exact ⟨_, _, .none, .password writable accepted, rfl⟩
  | gss context =>
    have established : Converses (Authenticator.gss context).IsMessage start _
        (outcome (Gss.establish context)) dialogue :=
      converses_outcome (Gss.establish_converses context extended)
    apply keeps_bind (keeps_of_converses established)
    rintro (failure | ⟨name, protection⟩) between reached
    · have aborting : Converses (Authenticator.gss context).IsMessage start _
          (outcome (write Gss.Frame.abort)) between :=
        converses_outcome (write_converses (.inl rfl) reached)
      apply keeps_bind (keeps_of_converses aborting)
      rintro (_ | _) _ sent
      · exact sent
      · exact sent.2
    · obtain ⟨heard, told, negotiates, rfl, sent⟩ := reached
      exact ⟨⟨sent, .inr ⟨context, protection, rfl, rfl⟩⟩, heard, told, some protection,
        .gss negotiates, rfl⟩

/-! ## The gate -/

/-- The octets by which a client offers methods. -/
def greeting (offered : Bytes) : Bytes := 5 :: counted offered

/-- What tells a client which method it is to use. -/
def Authenticator.choice : Authenticator → Bytes
  | .none => [5, 0]
  | .gss _ => [5, 1]
  | .password _ => [5, 2]

theorem Authenticator.choice_eq (authenticator : Authenticator) :
    authenticator.choice = [version, authenticator.method] := by
  cases authenticator <;> rfl

variable {registered : List Authenticator} {allowed : Bytes}

/-- How far an authentication has come that has not yet succeeded. -/
inductive Standing (registered : List Authenticator) (allowed : Bytes) (dialogue : Dialogue) : Prop
  /-- No method is chosen, and nothing is sent. -/
  | choosing (silent : dialogue.told = [])
  /-- No method is acceptable. -/
  | refused {offered : Bytes} (short : offered.length < 256)
      (heard : dialogue.heard = greeting offered)
      (told : dialogue.told = [[5, 0xff]])
      (unacceptable : ∀ authenticator ∈ registered, authenticator.method ∈ allowed →
        authenticator.method ∉ offered)
  /-- A method is chosen, and its messages are exchanged. -/
  | engaged {offered : Bytes} {authenticator : Authenticator} (short : offered.length < 256)
      (selected : Selected registered allowed offered authenticator)
      (extended : Dialogue.Extends authenticator.IsMessage
        (Dialogue.fresh.pass (greeting offered) [authenticator.choice]) dialogue)

/-- An authentication that has succeeded: the method was chosen, and its exchange has led to the user
who is known now. -/
inductive Admitted (registered : List Authenticator) (allowed : Bytes) (user : Option String) :
    Dialogue → Prop
  | intro {offered heard : Bytes} {told : List Bytes} {authenticator : Authenticator}
      {cover : Option Gss.Protection} (short : offered.length < 256)
      (selected : Selected registered allowed offered authenticator)
      (accepts : authenticator.Accepts heard told user cover) :
      Admitted registered allowed user (covered cover (Dialogue.fresh.pass
        (greeting offered ++ heard) (authenticator.choice :: told)))

/-- The dialogue by which a client comes past an authentication. -/
inductive Service.Clears (service : Service) (user : Option String) : Dialogue → Prop
  | intro {offered heard : Bytes} {told : List Bytes} {authenticator : Authenticator}
      {cover : Option Gss.Protection} (short : offered.length < 256)
      (selected : Authenticator.select service.authenticators offered = some authenticator)
      (accepts : authenticator.Accepts heard told user cover) :
      Clears service user (covered cover (Dialogue.fresh.pass
        (greeting offered ++ heard) ([version, authenticator.method] :: told)))

theorem admitted_of_clears {chain : Chain} {user : Option String} {dialogue : Dialogue}
    (clears : (Service.ofRegistered registered allowed chain).Clears user dialogue) :
    Admitted registered allowed user dialogue := by
  obtain ⟨short, selected, accepts⟩ := clears
  rw [← Authenticator.choice_eq]
  exact .intro short (selected_of_select selected) accepts

/-- What is done during an authentication. -/
structure Authenticating (registered : List Authenticator) (allowed : Bytes) (dialogue : Dialogue)
    (deed : Deed) : Prop where
  isOpen : dialogue.isOpen = true
  isAttentive : dialogue.isAttentive = true
  exchanges : deed.IsExchange (fun _ => True) ∨
    ∃ offered context protection, offered.length < 256 ∧ greeting offered <+: dialogue.heard ∧
      Selected registered allowed offered (.gss context) ∧ deed = .protect protection
  standing : Standing registered allowed (dialogue.after deed)

/-- Reading comes before anything is sent. -/
theorem reading_keeps {α : Type} {handler : Handler α} {format : Bytes → α → Prop}
    (has : HasFormat handler format) (octets : Bytes) :
    Keeps (Authenticating registered allowed) (fun _ => Standing registered allowed)
      (fun value after => ∃ more, after = Dialogue.fresh.hear (octets ++ more) ∧ format more value)
      handler (Dialogue.fresh.hear octets) := by
  simp only [← Dialogue.hear_hear]
  apply has.keeps
  · intro more limit answer
    rw [Dialogue.hear_hear]
    refine ⟨rfl, rfl, .inl trivial, .choosing ?_⟩
    cases answer <;> rfl
  · intro more _
    exact .choosing rfl

/-- An answer to what a client offers is the first that is sent. -/
theorem answering_keeps {offered answer : Bytes}
    (standing : ∀ after : Dialogue, after.heard = greeting offered → after.told = [answer] →
      after.isOpen = true → after.isAttentive = true → after.counterpart = .unsought →
      Standing registered allowed after) :
    Keeps (Authenticating registered allowed) (fun _ => Standing registered allowed)
      (fun _ after => after = Dialogue.fresh.pass (greeting offered) [answer] ∧
        Standing registered allowed after)
      (write answer) (Dialogue.fresh.hear (greeting offered)) := by
  apply keeps_write
  · intro outcome _
    refine ⟨rfl, rfl, .inl trivial, ?_⟩
    cases outcome <;> exact standing _ rfl rfl rfl rfl rfl
  · intro _
    exact standing _ rfl rfl rfl rfl rfl
  · intro _ _
    exact ⟨rfl, standing _ rfl rfl rfl rfl rfl⟩

theorem selectMethod_keeps (registered : List Authenticator) (allowed : Bytes) (chain : Chain) :
    Keeps (Authenticating registered allowed) (fun _ => Standing registered allowed)
      (fun authenticator after => ∃ offered, offered.length < 256 ∧
        Authenticator.select (Authenticator.offering registered allowed) offered =
          some authenticator ∧
        after = Dialogue.fresh.pass (greeting offered) [authenticator.choice])
      (Service.ofRegistered registered allowed chain).selectMethod Dialogue.fresh := by
  apply keeps_bind (reading_keeps (.readExactly 2) [])
  rintro _ _ ⟨given, rfl, size, rfl⟩
  match given, size with
  | [first, count], _ =>
    dsimp only
    unfold Service.checkVersion
    split
    · rename_i current
      subst current
      apply keeps_bind (reading_keeps (.readExactly count.toNat) [version, count])
      rintro _ _ ⟨offered, rfl, size, rfl⟩
      have heard : [version, count] ++ offered = greeting offered := by
        rw [greeting, counted, size, UInt8.ofNat_toNat]
        rfl
      rw [heard]
      have short : offered.length < 256 := size ▸ count.toNat_lt
      split
      · rename_i authenticator found
        have selected := selected_of_select found
        rw [← authenticator.choice_eq]
        apply keeps_bind (answering_keeps fun after heard told isOpen isAttentive counterpart =>
          .engaged short selected ⟨heard ▸ List.prefix_rfl, ⟨[], told, List.forall_mem_nil _⟩,
            isOpen, isAttentive, counterpart⟩)
        rintro _ _ ⟨rfl, -⟩
        exact ⟨offered, short, found, rfl⟩
      · rename_i missing
        apply keeps_bind (answering_keeps fun after heard told _ _ _ =>
          .refused short heard told fun _ => not_offered_of_select missing)
        rintro _ _ ⟨-, standing⟩
        exact keeps_fail standing
    · exact keeps_throw (.choosing rfl)

/-- A deed of the exchange of the chosen method belongs to the authentication. -/
theorem authenticating_of_engages {offered : Bytes} {authenticator : Authenticator} {deed : Deed}
    (short : offered.length < 256) (selected : Selected registered allowed offered authenticator)
    (engages : authenticator.Engages
      (Dialogue.fresh.pass (greeting offered) [authenticator.choice]) dialogue deed) :
    Authenticating registered allowed dialogue deed := by
  obtain ⟨extended, exchange⟩ := engages
  refine ⟨extended.isOpen, extended.isAttentive, ?_, ?_⟩
  · rcases exchange with exchange | ⟨context, protection, rfl, rfl⟩
    · left
      cases deed <;> first | exact trivial | exact False.elim exchange
    · exact .inr ⟨offered, context, protection, short, extended.heard, selected, rfl⟩
  · rcases exchange with exchange | ⟨context, protection, rfl, rfl⟩
    · exact .engaged short selected (extended.after exchange)
    · exact .engaged short selected { extended with }

theorem Service.authenticate_keeps (registered : List Authenticator) (allowed : Bytes)
    (chain : Chain) (peer : Peer) :
    Keeps (Authenticating registered allowed) (fun _ => Standing registered allowed)
      (fun authenticated => (ofRegistered registered allowed chain).Clears authenticated.user)
      ((ofRegistered registered allowed chain).authenticate peer) Dialogue.fresh := by
  apply keeps_bind (selectMethod_keeps registered allowed chain)
  rintro authenticator _ ⟨offered, short, found, rfl⟩
  have selected := selected_of_select found
  have exchange : Keeps (Authenticating registered allowed) (fun _ => Standing registered allowed) _
      (authenticator.authenticate peer.own)
      (Dialogue.fresh.pass (greeting offered) [authenticator.choice]) :=
    keeps_mono (authenticator.authenticate_keeps peer.own (.refl _))
      (fun _ _ engages => authenticating_of_engages short selected engages)
      (fun _ _ extended => .engaged short selected extended) fun _ _ held => held
  apply keeps_bind (keeps_outcome exchange)
  rintro (failure | authenticated) between reached
  · exact keeps_fail reached
  · obtain ⟨heard, told, cover, accepts, rfl⟩ := reached
    rw [Dialogue.pass_pass, authenticator.choice_eq]
    exact .intro short found accepts

namespace Service

/-- What a service does for a client who has authenticated itself: it reads the head of a request and
serves it, and closes the connection. -/
def conclude (service : Service) (peer : Peer) (authenticated : Authenticated) : Handler Unit := do
  let result ← outcome do
    let head ← readHead
    service.chain.dispatch {
      head, user := authenticated.user, peer := peer.remote, own := authenticated.own,
      window := peer.window }
  close
  ofResult result

/-- An authentication that fails ends the session. -/
theorem handle_run (service : Service) (peer : Peer) :
    (service.handle peer).run = (service.authenticate peer).run.bind fun
      | .ok authenticated => (service.conclude peer authenticated).run
      | .error failure => .close (.done (.error failure)) := by
  refine (Session.bind_assoc _ _ _).trans ((Session.bind_assoc _ _ _).trans ?_)
  apply congrArg
  funext result
  cases result with
  | ok authenticated => exact (Session.bind_assoc _ _ _).symm
  | error failure => rfl

/-- A session past its gate, where it serves a client who has authenticated itself, or before it. -/
inductive Gated (registered : List Authenticator) (allowed : Bytes) (chain : Chain) (peer : Peer) :
    List Deed → Session (Except Failure Unit) → Prop
  /-- A request is read and served for the user whom the exchange has made known. -/
  | passed {exchange others : List Deed} {rest : Session (Except Failure Unit)}
      {authenticated : Authenticated} (talk : ∀ deed ∈ exchange, deed.IsTalk)
      (admitted :
        Admitted registered allowed authenticated.user (Dialogue.fresh.run exchange))
      (concludes :
        ((ofRegistered registered allowed chain).conclude peer authenticated).run.Along others rest) :
      Gated registered allowed chain peer (exchange ++ others) rest
  /-- The session goes on, or has still to close the connection. -/
  | waiting {exchange : List Deed} {rest : Session (Except Failure Unit)}
      (talk : ∀ deed ∈ exchange, deed.IsTalk)
      (standing : Standing registered allowed (Dialogue.fresh.run exchange))
      (unfinished : ∀ result, rest ≠ .done result) :
      Gated registered allowed chain peer exchange rest
  /-- The session has failed, and the connection is closed. -/
  | rejected {exchange : List Deed} {failure : Failure} (talk : ∀ deed ∈ exchange, deed.IsTalk)
      (standing : Standing registered allowed (Dialogue.fresh.run exchange)) :
      Gated registered allowed chain peer (exchange ++ [.close]) (.done (.error failure))

/-- A request is read, and anything asked of the network, only after a method was selected that is
registered, allowed and offered, the least of these, and its exchange has succeeded; the request is
served for the user whom that exchange has made known. Otherwise the session exchanges nothing but
the choice of a method and the messages of that method, and where it ends it has failed and closed
the connection. -/
theorem admitted_or_standing (registered : List Authenticator) (allowed : Bytes) (chain : Chain)
    (peer : Peer) {deeds : List Deed} {rest : Session (Except Failure Unit)}
    (path : ((ofRegistered registered allowed chain).handle peer).run.Along deeds rest)
    (fits : Dialogue.fresh.FitsAll deeds) : Gated registered allowed chain peer deeds rest := by
  have keeps := authenticate_keeps registered allowed chain peer
  have talks := (ofRegistered registered allowed chain).authenticate_talks peer
  have standing {exchange : List Deed} {inner : Session (Except Failure Authenticated)}
      (own : ((ofRegistered registered allowed chain).authenticate peer).run.Along exchange inner)
      (fits : Dialogue.fresh.FitsAll exchange) :
      Standing registered allowed (Dialogue.fresh.run exchange) :=
    Session.keeps_invariant keeps own fits (.choosing rfl) fun _ _ authenticating _ =>
      authenticating.standing
  rw [handle_run] at path
  rcases Session.along_bind path with ⟨inner, own, rfl⟩ | ⟨exchange, others, result, rfl, own, left⟩
  · refine .waiting (Session.heeds_along talks own).1 (standing own fits) ?_
    intro result finished
    cases inner with
    | done result => cases result <;> cases finished
    | _ => cases finished
  · have talk : ∀ deed ∈ exchange, deed.IsTalk := (Session.heeds_along talks own).1
    obtain ⟨before, -⟩ := Dialogue.fitsAll_append.mp fits
    cases result with
    | ok authenticated =>
      exact .passed talk (admitted_of_clears (Session.keeps_along keeps own before)) left
    | error failure =>
      cases left with
      | here =>
        -- The authentication has failed, but the connection is not closed yet.
        rw [List.append_nil]
        exact .waiting talk (standing own before) fun _ finished => by cases finished
      | step first ended =>
        cases first
        obtain ⟨rfl, rfl⟩ := Session.along_done ended
        exact .rejected talk (standing own before)

/-- Authenticators of which the first is for everybody, the second for `ann` with her password. -/
def doorkeepers : List Authenticator :=
  [.none, .password fun user password => user == "ann" && password == "x"]

def openChain : Chain := .standard { policy := .permissive, reportsBound := false }

def visitor : Peer := { remote := ⟨.unspecified, 40000⟩, own := none, window := default }

def outside : Endpoint := ⟨.v4 ⟨192, 0, 2, 1⟩, 80⟩

/-- `ann` offers no method but that for passwords, gives hers, and connects to a host outside. -/
def visit : Tape := .ofBytes
  [5, 1, 2, 1, 3, 97, 110, 110, 1, 120, 5, 1, 0, 1, 192, 0, 2, 1, 0, 80]

theorem ofRegistered_doorkeepers : ofRegistered doorkeepers [0, 2] openChain =
    { authenticators := doorkeepers, chain := openChain } := by
  have sorted : (doorkeepers.filter (([0, 2] : Bytes).contains ·.method)).mergeSort
      (fun first second => first.method ≤ second.method) = doorkeepers :=
    List.mergeSort_of_pairwise (by decide)
  simp only [ofRegistered, Authenticator.offering, sorted]
  rfl

/-- Somebody offers no method but that with a security context, and is turned away. -/
def refusal : List Deed :=
  [.read 2 (.ok [5, 1]), .read 1 (.ok [1]), .write [5, 0xff] (.ok ()), .close]

theorem along_refusal : ((ofRegistered doorkeepers [0, 2] openChain).handle visitor).run.Along
    refusal (.done (.error (.ofNegotiation .noAcceptableMethod))) := by
  rw [ofRegistered_doorkeepers]
  exact .step (.read _) (.step (.read _) (.step (.write _) (.step .close (.here _))))

/-- A visit that leads to a host outside has passed the gate, and a refusal is told before it. -/
theorem admitted_or_standing_visit :
    (∃ deeds rest answer,
      ((ofRegistered doorkeepers [0, 2] openChain).handle visitor).run.Along deeds rest ∧
      Dialogue.fresh.FitsAll deeds ∧ .dial outside answer ∈ deeds ∧
      Gated doorkeepers [0, 2] openChain visitor deeds rest) ∧
    (let rest := Session.done (.error (.ofNegotiation .noAcceptableMethod))
    ((ofRegistered doorkeepers [0, 2] openChain).handle visitor).run.Along refusal rest ∧
      Dialogue.fresh.FitsAll refusal ∧ (Dialogue.fresh.run refusal).told = [[5, 0xff]] ∧
      Gated doorkeepers [0, 2] openChain visitor refusal rest) := by
  constructor
  · obtain ⟨deeds, path, fits, same⟩ := Session.exists_along_run_fits
      ((ofRegistered doorkeepers [0, 2] openChain).handle visitor).run .isolated
      (⟨rfl, rfl, rfl⟩ : Session.Suits visit .fresh)
    have dialled : Contact.dial outside ∈ deeds.filterMap Deed.contact? := by
      rw [same, ofRegistered_doorkeepers]
      exact List.mem_singleton.mpr rfl
    obtain ⟨deed, member, contact⟩ := List.mem_filterMap.mp dialled
    cases deed with
    | dial endpoint answer =>
      cases contact
      exact ⟨deeds, _, answer, path, fits, member,
        admitted_or_standing doorkeepers [0, 2] openChain visitor path fits⟩
    | _ => cases contact
  · have fits : Dialogue.fresh.FitsAll refusal :=
      ⟨⟨rfl, by decide⟩, ⟨rfl, by decide⟩, ⟨rfl, rfl⟩, trivial, trivial⟩
    exact ⟨along_refusal, fits, rfl,
      admitted_or_standing doorkeepers [0, 2] openChain visitor along_refusal fits⟩

end Service

end SocksGateway.Socks5
