import Rendezvous.Standby.Messages

/-!
# What a standby's messages leave alone

The state a standby is sent is to change only with the snapshots.
`standby_keeps_iff` says which messages leave it as it was, up to the times
nodes were last seen: all but a poll of handshakes that finds something to
hand out, and a poll of invites that finds one which has expired.
-/

namespace Rendezvous.Standby

open Base Registry Authz Trust Rendezvous.Membership Lifecycle Disclosure

/-! ## The replicated state -/

/-- A record without the time its node was last seen. -/
def unseen (n : NodeInfo) : NodeInfo := { n with lastSeen := zeroTime, lastSeenNano := 0 }

/-- The registry, but for the times its nodes were last seen. -/
def replicated (s : Server) : Server :=
  { s with nodes := s.nodes.mapVals fun _ n => unseen n }

/-- A poll of handshakes by a node that is there and signs. -/
def SignsPoll (E : StationEnv) (s : Server) (msg : Msg) : Prop :=
  let nodeID := msg.jsonUint32 "node_id"
  ∃ n sig, s.nodes.get nodeID = some n ∧ msg.str "signature" ≠ "" ∧
    Base64.decode (msg.str "signature") = some sig ∧
    E.verify n.publicKey (utf8 s!"poll_handshakes:{nodeID}") sig = true

/-- Such a poll, with requests or answers to hand out. -/
def DrainsInbox (E : StationEnv) (s : Server) (msg : Msg) : Prop :=
  let nodeID := msg.jsonUint32 "node_id"
  SignsPoll E s msg ∧ (s.trust.inbox.get nodeID ≠ none ∨ s.trust.responses.get nodeID ≠ none)

/-- A poll of invites by a node that is there and signs, with one that has
expired. -/
def PrunesInvites (E : StationEnv) (now : Time) (s : Server) (msg : Msg) : Prop :=
  let nodeID := msg.jsonUint32 "node_id"
  (∃ n, s.nodes.get nodeID = some n ∧ msg.str "signature" ≠ "" ∧
    SignedBy E.toEnv n.publicKey msg s!"poll_invites:{nodeID}") ∧
  ∃ inv ∈ (s.inviteInbox.get nodeID).getD [], expired now inv = true

/-- One of the two polls, whose breaker is not open. -/
def Polls (E : StationEnv) (now : Time) (st : Station) (msg : Msg) : Prop :=
  (msg.str "type" = "poll_handshakes" ∧ st.tripped "registry.handshake" = none ∧
    DrainsInbox E st.server msg) ∨
  (msg.str "type" = "poll_invites" ∧ st.tripped "registry.invite" = none ∧
    PrunesInvites E now st.server msg)

/-- A message that is such a poll. -/
def Takes (E : StationEnv) (now : Time) (st : Station) : Inbound → Prop
  | .text msg => Polls E now st msg
  | .frame .json payload => ∃ msg, E.unmarshal payload = .ok msg ∧ Polls E now st msg
  | _ => False

/-! ## The commands -/

/-- The command found for a type has that type. -/
theorem Command.ofText_eq {text : String} {c : Command} (h : Command.ofText text = some c) :
    c.text = text := of_decide_eq_true (List.find?_some h :)

/-- Every command is found under its type. -/
theorem Command.ofText_text (c : Command) : Command.ofText c.text = some c := by
  cases c <;> decide +kernel

section

variable {E : StationEnv} {now : Time} {order : Orders} {st : Station} {msg : Msg}

/-- Only the times nodes were last seen differ. -/
theorem replicated_seen (s : Server) (nodeID : NodeId) (t : Time) :
    replicated { s with nodes := s.nodes.modify nodeID fun n =>
      { n with lastSeenNano := t } } = replicated s := by
  unfold replicated
  congr 1
  ext1 j
  simp only [GoMap.get_mapVals, GoMap.get_modify]
  split
  · next hj =>
    rw [hj]
    cases s.nodes.get nodeID <;> rfl
  · rfl

theorem beat_replicated (b : Beat) (nodeID : NodeId) (n : NodeInfo) (audited : Bool) :
    replicated (st.beat E now b nodeID n audited).1.server = replicated st.server := by
  unfold Station.beat
  dsimp only
  split
  · rfl
  · split
    · cases audited <;> rfl
    · exact replicated_seen st.server nodeID now

theorem handleHeartbeat_replicated :
    replicated (st.handleHeartbeat E now msg).1.server = replicated st.server := by
  unfold Station.handleHeartbeat
  dsimp only
  split
  · rfl
  · exact beat_replicated ..

theorem admitPoll_ok_iff (s : Server) :
    admitPoll E.toEnv s.nodes msg = .ok () ↔ SignsPoll E s msg := by
  simp only [admitPoll, checkSignature, bind_eq_ok, orFail_eq_ok, require_eq_ok,
    decide_eq_true_eq, SignsPoll]
  constructor
  · rintro ⟨n, hn, -, hsig, sig, hdec, hver⟩
    exact ⟨n, sig, hn, hsig, hdec, hver⟩
  · rintro ⟨n, sig, hn, hsig, hdec, hver⟩
    exact ⟨n, hn, (), hsig, sig, hdec, hver⟩

theorem pop_eq_self_iff (t : TrustStore) (nodeID : NodeId) :
    pop t nodeID = t ↔ t.inbox.get nodeID = none ∧ t.responses.get nodeID = none := by
  constructor
  · intro h
    rw [← h]
    exact ⟨GoMap.get_del_self .., GoMap.get_del_self ..⟩
  · rintro ⟨hinbox, hresponses⟩
    unfold pop
    rw [GoMap.del_of_get_none _ hinbox, GoMap.del_of_get_none _ hresponses]

theorem pollHandshakes_keeps_iff :
    replicated (st.commit (handlePollHandshakes E.toEnv st.server msg)).1.server =
        replicated st.server ↔ ¬ DrainsInbox E st.server msg := by
  unfold DrainsInbox handlePollHandshakes
  dsimp only
  rw [← admitPoll_ok_iff]
  cases hadmit : admitPoll E.toEnv st.server.nodes msg with
  | error e => exact iff_of_true rfl fun h => by cases h.1
  | ok u =>
    have htrust : replicated { st.server with
          trust := pop st.server.trust (msg.jsonUint32 "node_id") } =
        replicated st.server ↔ pop st.server.trust (msg.jsonUint32 "node_id") = st.server.trust :=
      ⟨congrArg Server.trust, fun h => by rw [h]⟩
    exact htrust.trans (by rw [pop_eq_self_iff]; simp [not_or])

/-- The inbox a poll writes back is another one. -/
theorem pruned_keeps_iff (now : Time) (s : Server) (nodeID : NodeId) :
    let inbox := (s.inviteInbox.get nodeID).getD []
    let active := inbox.filter fun inv => !expired now inv
    replicated (if active.length < inbox.length then
        { s with inviteInbox := s.inviteInbox.set nodeID active } else s) = replicated s ↔
      ¬ ∃ inv ∈ inbox, expired now inv = true := by
  intro inbox active
  have hlt : active.length < inbox.length ↔ ∃ inv ∈ inbox, expired now inv = true := by
    simp [active, List.length_filter_lt_length_iff_exists]
  rw [← hlt]
  split
  · next hshort =>
    refine iff_of_false (fun h => ?_) (not_not_intro hshort)
    have hget : some active = s.inviteInbox.get nodeID := by
      have := congrArg (fun t => t.inviteInbox.get nodeID) h
      rwa [replicated, replicated, GoMap.get_set_self] at this
    have hsame : inbox = active := by
      rw [show inbox = (s.inviteInbox.get nodeID).getD [] from rfl, ← hget]
      rfl
    rw [← hsame] at hshort
    exact Nat.lt_irrefl _ hshort
  · next hlong => exact iff_of_true rfl hlong

theorem pollInvites_keeps_iff :
    replicated (st.pollInvites E now msg).1.server = replicated st.server ↔
      ¬ PrunesInvites E now st.server msg := by
  unfold PrunesInvites Station.pollInvites handlePollInvites
  dsimp only
  generalize msg.jsonUint32 "node_id" = nodeID
  cases hn : st.server.nodes.get nodeID with
  | none => exact iff_of_true rfl fun ⟨⟨n, hsome, _⟩, _⟩ => by cases hsome
  | some n =>
    simp only [orFail_some, ok_bind, Option.some.injEq, exists_eq_left',
      ← verifyNodeSignature_ok E.toEnv n.publicKey E.adminToken]
    cases hsig : verifyNodeSignature E.toEnv (some n.publicKey) E.adminToken msg
        s!"poll_invites:{nodeID}" with
    | error e => exact iff_of_true rfl fun h => by cases h.1
    | ok u =>
      refine Iff.trans ?_ ((pruned_keeps_iff now st.server nodeID).trans (by simp))
      -- the entry of the audit log is not part of the registry
      dsimp only [ok_bind, pure, Except.pure]
      split <;> rfl

/-- A command keeps the replicated state, unless it is one of the polls. -/
theorem run_keeps_iff (c : Command) :
    replicated (st.run E now order msg c).1.server = replicated st.server ↔
      ¬ (c = .pollHandshakes ∧ DrainsInbox E st.server msg ∨
        c = .pollInvites ∧ PrunesInvites E now st.server msg) := by
  cases c with
  | heartbeat => exact iff_of_true handleHeartbeat_replicated (by simp)
  | pollHandshakes => exact pollHandshakes_keeps_iff.trans (by simp)
  | pollInvites => exact pollInvites_keeps_iff.trans (by simp)
  | _ => exact iff_of_true rfl (by simp)

theorem refusal_eq_none_iff (c : Command) :
    st.refusal c = none ↔ ∀ name ∈ c.breaker, st.tripped name = none := by
  unfold Station.refusal
  cases c.breaker with
  | none => simp
  | some name => cases htrip : st.tripped name <;> simp [htrip]

theorem handleMessage_keeps_iff :
    replicated (st.handleMessage E now order msg).1.server = replicated st.server ↔
      ¬ Polls E now st msg := by
  unfold Station.handleMessage Polls
  cases hc : Command.ofText (msg.str "type") with
  | none =>
    have hnot : ∀ c : Command, msg.str "type" ≠ c.text := by
      intro c htype
      rw [htype, Command.ofText_text] at hc
      cases hc
    refine iff_of_true rfl ?_
    rintro (⟨htype, -⟩ | ⟨htype, -⟩)
    · exact hnot .pollHandshakes htype
    · exact hnot .pollInvites htype
  | some c =>
    dsimp only
    have htype : ∀ c' : Command, msg.str "type" = c'.text ↔ c = c' := by
      intro c'
      rw [← Command.ofText_eq hc]
      exact ⟨fun h => Option.some.inj (by rw [← c.ofText_text, h, c'.ofText_text]),
        congrArg Command.text⟩
    rw [show (msg.str "type" = "poll_handshakes") = _ from propext (htype .pollHandshakes),
      show (msg.str "type" = "poll_invites") = _ from propext (htype .pollInvites)]
    cases href : st.refusal c with
    | some e =>
      refine iff_of_true rfl ?_
      have hopen : ¬ ∀ name ∈ c.breaker, st.tripped name = none := by
        rw [← refusal_eq_none_iff, href]
        exact Option.some_ne_none e
      rintro (⟨rfl, hclosed, -⟩ | ⟨rfl, hclosed, -⟩) <;>
        exact hopen fun name hname => Option.some.inj hname ▸ hclosed
    | none =>
      have hclosed := (refusal_eq_none_iff c).mp href
      refine (run_keeps_iff c).trans (not_congr (or_congr ?_ ?_))
      · refine and_congr_right fun hpoll => (and_iff_right ?_).symm
        exact hclosed _ (by rw [hpoll]; rfl)
      · refine and_congr_right fun hpoll => (and_iff_right ?_).symm
        exact hclosed _ (by rw [hpoll]; rfl)

theorem not_polls_of_subscribe (h : msg.str "type" = "subscribe_replication") :
    ¬ Polls E now st msg := by
  unfold Polls
  rw [h]
  rintro (⟨htype, -⟩ | ⟨htype, -⟩) <;> exact absurd htype (by decide)

theorem binaryHeartbeat_replicated (payload : Bytes) :
    replicated (st.handleBinaryHeartbeat E now payload).1.server = replicated st.server := by
  unfold Station.handleBinaryHeartbeat
  split
  · rfl
  · next nodeID sig _ =>
    split
    · rfl
    · split
      · rfl
      · next n _ =>
        have hbeat : replicated (st.beat E now (.binary sig) nodeID n false).1.server =
            replicated st.server := beat_replicated ..
        split <;> simp_all

end

/-- A message leaves the replicated state of a standby as it was, unless it
is a poll that takes something from an inbox. -/
theorem standby_keeps_iff (E : StationEnv) (now : Time) (order : Orders) (st : Station)
    (m : Inbound) :
    replicated (st.receive E now order m).1.server = replicated st.server ↔ ¬ Takes E now st m := by
  cases m with
  | text msg =>
    simp only [Station.receive, Takes]
    split
    · next hsub => exact iff_of_true rfl (not_polls_of_subscribe hsub)
    · exact handleMessage_keeps_iff
  | frame type payload =>
    cases type with
    | heartbeat => exact iff_of_true (binaryHeartbeat_replicated payload) id
    | json =>
      simp only [Station.receive, Station.handleFrameJSON, Takes]
      cases hmsg : E.unmarshal payload with
      | error e => exact iff_of_true rfl (by rintro ⟨msg, ⟨⟩, -⟩)
      | ok msg =>
        simp only [Except.ok.injEq, exists_eq_left']
        split
        · next hsub => exact iff_of_true rfl (not_polls_of_subscribe hsub)
        · exact handleMessage_keeps_iff
    | _ => exact iff_of_true rfl id

/-! ## A poll on a standby -/

/-- The plain environment of a standby. -/
def StationEnv.plain : StationEnv where
  toDirectoryEnv := .plain false
  rulesJson := fun rules => .str rules.document
  rawJson := .str
  formatEvent := fun _ => ""
  decodeHeartbeatReq := fun _ => .error "no heartbeat"
  encodeHeartbeatResp := fun _ _ => []
  unmarshal := fun _ => .error "no message"

/-- Node 1 has asked for a handshake with node 2. -/
def asked : Station where
  server := {
    nodes := .ofList [(1, { publicKey := [0, 0, 0], networks := [0] }),
      (2, { publicKey := [4, 16, 65], networks := [0] })]
    trust := {
      inbox := .ofList [(2, [{ fromNodeID := 1, justification := "", timestamp := 0 }])]
      pending := .ofList [(2, {1})] } }

/-- Node 2 polls the standby: the request is handed out, and is gone. -/
theorem poll_drains_standby :
    let m := Inbound.text [("type", .str "poll_handshakes"), ("node_id", .num 2),
      ("signature", .str "BBBB")]
    asked.server.trust.inbox.has 2 = true ∧
      (asked.receive .plain 0 {} m).1.server.trust.inbox.has 2 = false ∧
      replicated (asked.receive .plain 0 {} m).1.server ≠ replicated asked.server := by
  decide +kernel

end Rendezvous.Standby
