/-
# Switchboard.Proofs.RequestOrder -- requests are written in the order of their calls

A request reaches the socket by the channel of the session, or by the backlog and the
prologue of a later one; and what is left in the channel of a session that ends goes to
the backlog, behind what is there.  The order of calls survives this because the two
ways are never open at once: the backlog grows only without a channel, and a channel is
written only after the prologue has emptied the backlog.  So the requests that have been
written, then those of the prologue, of the backlog and of the channel, are in the order
of their calls at all times, with some left out (`Client.InOrder`).

A request is made once, when its call is, with the token of that moment.  What was made
can be read off the moves of a run (`requestsMade`).

* `InOrder.move`: every move keeps the order;
* `requests_in_order`: what this means for every run.
-/
import Switchboard.Proofs.Prologue
import Switchboard.Proofs.Requests

namespace Switchboard

set_option autoImplicit false

/-- Whether a prologue has taken over the backlog. -/
def Prologue.hasUnloaded : Prologue → Bool
  | .flushing _ | .complete => true
  | .unread | .announcing _ => false

namespace Outbound

/-- The requests among frames. -/
def requests (frames : List Outbound) : List Outbound := frames.filter (·.isRequest)

theorem requests_append (first second : List Outbound) :
    requests (first ++ second) = requests first ++ requests second :=
  List.filter_append ..

theorem requests_aside {frames : List Outbound} (aside : ∀ frame ∈ frames, frame.requestId = none) :
    requests frames = [] := by
  refine List.filter_eq_nil_iff.2 fun frame member => ?_
  simp [isRequest, aside frame member]

theorem requests_sublist {first second : List Outbound} (fewer : first.Sublist second) :
    (requests first).Sublist (requests second) :=
  fewer.filter _

end Outbound

namespace Client

open Outbound (requests requests_append requests_aside requests_sublist)

variable {κ ω : Type} {licence : Licence κ ω} {client after : Client κ ω}

/-! ## The order of requests -/

/-- The frames that have been written, then those that wait to be, in the order in which they will
be written. -/
def queue (client : Client κ ω) : List Outbound :=
  client.link.written.map (·.frame) ++ client.link.prologue.unwritten ++ client.link.backlog ++
    client.link.channel.getD []

/-- The requests, written or not, are in the order of their calls; and behind a prologue that has
taken over the backlog nothing is held any more. -/
structure InOrder (client : Client κ ω) : Prop where
  order : (requests client.queue).Sublist (client.issued.map (·.request))
  unloaded : client.link.channel.isSome = true → client.link.prologue.hasUnloaded = true →
    client.link.backlog = []

/-- Frames may be left out of the queue. -/
theorem InOrder.of_fewer (inOrder : client.InOrder)
    (fewer : (requests after.queue).Sublist (requests client.queue))
    (issued : after.issued = client.issued)
    (unloaded : after.link.channel.isSome = true → after.link.prologue.hasUnloaded = true →
      after.link.backlog = []) : after.InOrder :=
  ⟨issued ▸ fewer.trans inOrder.order, unloaded⟩

/-- Frames may move on in the queue. -/
theorem InOrder.of_same (inOrder : client.InOrder)
    (same : requests after.queue = requests client.queue) (issued : after.issued = client.issued)
    (unloaded : after.link.channel.isSome = true → after.link.prologue.hasUnloaded = true →
      after.link.backlog = []) : after.InOrder :=
  inOrder.of_fewer (same ▸ List.Sublist.refl _) issued unloaded

/-- Requests may be left out of the backlog, with a call made meanwhile or not. -/
theorem InOrder.of_filter (inOrder : client.InOrder) (keep : Outbound → Bool)
    (link : after.link =
      { client.link with backlog := client.link.backlog.filter keep }) (made : List Issued)
    (issued : after.issued = client.issued ++ made) : after.InOrder where
  order := by
    have fewer : after.queue.Sublist client.queue := by
      rw [queue, queue, link]
      exact (List.filter_sublist.append_left _).append_right _
    rw [issued, List.map_append]
    exact ((requests_sublist fewer).trans inOrder.order).trans (List.sublist_append_left _ _)
  unloaded some past := by
    rw [link] at some past ⊢
    simp [inOrder.unloaded some past]

/-- What is held, one after the other, comes behind what was held. -/
theorem holdAll_sublist (left : List Outbound) (client : Client κ ω) :
    (client.holdAll left).link.backlog.Sublist (client.link.backlog ++ left) := by
  induction left generalizing client with
  | nil => simp [holdAll]
  | cons frame left ih =>
      have first : (client.hold frame).1.link.backlog.Sublist (client.link.backlog ++ [frame]) := by
        rcases client.hold_cases frame with ⟨refused, -⟩ | ⟨-, held⟩
        · rw [refused]
          exact List.sublist_append_left _ _
        · rw [held]
          exact List.filter_sublist.append_right _
      rw [holdAll_cons, List.append_cons]
      exact (ih _).trans (first.append_right _)

theorem InOrder.bystander (inOrder : client.InOrder) (calm : client.Calm after)
    (bystander : client.Bystander after) : after.InOrder := by
  obtain ⟨frames, aside, channel⟩ := bystander.channel
  refine inOrder.of_fewer ?_ bystander.issued ?_
  · have none := requests_aside aside
    rw [queue, queue, calm.written, calm.prologue, bystander.backlog, channel]
    cases client.link.channel with
    | none => exact List.Sublist.refl _
    | some queue => simp [requests_append, none]
  · rw [calm.prologue, calm.channel_isSome, bystander.backlog]
    exact inOrder.unloaded

/-- The request of a new call comes last, wherever it goes. -/
theorem InOrder.handOver (inOrder : client.InOrder) (coherent : client.Coherent) {issued : Issued}
    (books : client.Books issued) (limit : Option Span) :
    (client.handOver issued limit).InOrder := by
  have request : requests [issued.request] = [issued.request] := rfl
  have last : (requests client.queue ++ [issued.request]).Sublist
      ((client.handOver issued limit).issued.map (·.request)) := by
    rw [handOver_issued, List.map_append]
    exact inOrder.order.append_right _
  rcases coherent.handOver_cases books limit with
    ⟨queue, channel, sent⟩ | ⟨channel, ⟨-, held⟩ | ⟨-, lost⟩⟩
  · refine ⟨List.Sublist.trans ?_ last, ?_⟩
    · rw [sent]
      simp [Client.queue, channel, requests_append, request]
    · rw [sent]
      exact fun _ => inOrder.unloaded (by simp [channel])
  · refine ⟨List.Sublist.trans ?_ last, by simp [held, channel]⟩
    have kept : (requests (client.link.backlog.filter (client.book issued).isLive)).Sublist
        (requests client.link.backlog) := requests_sublist List.filter_sublist
    rw [held]
    simpa [Client.queue, channel, requests_append, request] using kept
  · rw [lost] at last ⊢
    refine ⟨(List.sublist_append_left _ _).trans last, fun some => ?_⟩
    simp [book, channel] at some

/-- What is left in the channel comes behind the backlog, where it was before; what the prologue had
taken over is lost. -/
theorem InOrder.detach (inOrder : client.InOrder) {queue : List Outbound}
    (fits : (Move.detach queue).Fits licence client) :
    ((Move.detach queue).apply client).InOrder := by
  obtain ⟨lost, channel⟩ := fits.channel
  rw [apply_detach]
  refine inOrder.of_fewer (requests_sublist ?_) rfl (by simp [unplugged])
  have held : (client.unplugged.holdAll queue).link.backlog.Sublist
      (client.link.backlog ++ queue) := holdAll_sublist queue client.unplugged
  have kept : (client.link.written.map (·.frame)).Sublist
      (client.link.written.map (·.frame) ++ client.link.prologue.unwritten) :=
    List.sublist_append_left _ _
  have rest : (client.link.backlog ++ queue).Sublist (client.link.backlog ++ (lost ++ queue)) :=
    (List.sublist_append_right _ _).append_left _
  simpa [Client.queue, unplugged, Prologue.unwritten, channel] using
    (kept.append (held.trans rest))

/-- **Every move keeps the order.** -/
theorem InOrder.move (inOrder : client.InOrder) (coherent : client.Coherent) {move : Move κ ω}
    (fits : move.Fits licence client) : (move.apply client).InOrder := by
  cases move with
  | aside act => exact inOrder.bystander (perform_calm act client) (perform_bystander fits.2 client)
  | call issued limit => exact inOrder.handOver coherent fits.2 limit
  | unsent issued => exact inOrder.of_filter _ rfl [issued] rfl
  | cancel id => exact inOrder.of_filter _ rfl [] (List.append_nil _).symm
  | depart awaited farewell => exact inOrder.of_filter _ rfl [] (List.append_nil _).symm
  | steer | settle | failAll =>
      exact inOrder.of_same rfl rfl inOrder.unloaded
  | install room =>
      obtain ⟨-, none⟩ := fits
      refine inOrder.of_fewer (requests_sublist ?_) rfl (by simp [Move.apply, moveTo, openSession,
        Prologue.hasUnloaded])
      simp [queue, Move.apply, moveTo, openSession, Prologue.unwritten, none]
  | read =>
      have begun : client.link.prologue = .unread := fits
      refine inOrder.of_same ?_ rfl (by simp [Move.apply, setPrologue,
        Prologue.hasUnloaded])
      simp [queue, Move.apply, setPrologue, Prologue.unwritten, begun]
  | announce topic left =>
      obtain ⟨begun, -⟩ := fits
      have skipped : ∀ rest, requests (.subscribe topic :: rest) = requests rest := fun _ => rfl
      refine inOrder.of_same ?_ rfl (by simp [Move.apply, wrote, Link.put,
        setPrologue, Prologue.hasUnloaded])
      simp [queue, Move.apply, wrote, Link.put, setPrologue, Prologue.unwritten, begun,
        requests_append, skipped]
  | unload =>
      have begun : client.link.prologue = .announcing [] := fits
      refine inOrder.of_fewer (requests_sublist ?_) rfl (fun _ _ => rfl)
      simp [queue, Move.apply, Client.unload, Prologue.unwritten, begun]
  | flush frame left =>
      obtain ⟨begun, -⟩ := fits
      refine inOrder.of_same ?_ rfl fun some _ =>
        inOrder.unloaded some (by rw [begun]; rfl)
      simp [queue, Move.apply, wrote, Link.put, setPrologue, Prologue.unwritten, begun]
  | finish =>
      have begun : client.link.prologue = .flushing [] := fits
      refine inOrder.of_same ?_ rfl fun some _ =>
        inOrder.unloaded some (by rw [begun]; rfl)
      simp [queue, Move.apply, setPrologue, Prologue.unwritten, begun]
  | emit frame queue =>
      obtain ⟨complete, channel, -⟩ := fits
      -- nothing is held, so the frame moves from the head of the channel to the end of the written
      have empty := inOrder.unloaded (by simp [channel]) (by simp [complete, Prologue.hasUnloaded])
      refine inOrder.of_same ?_ rfl fun _ _ => empty
      simp [Client.queue, Move.apply, wrote, Link.put, setChannel, Prologue.unwritten, complete,
        channel, empty]
  | answer id =>
      have skipped : ∀ rest, requests (.pong id :: rest) = requests rest := fun _ => rfl
      refine inOrder.of_same ?_ rfl inOrder.unloaded
      simp [queue, Move.apply, wrote, Link.put, requests_append, skipped]
  | detach queue => exact inOrder.detach fits
  | clear =>
      refine inOrder.of_fewer (requests_sublist ?_) rfl fun _ _ => rfl
      simp [queue, Move.apply, rejectAll]

theorem start_inOrder (options : Options) (token : Option Json) (candidate : Nat → CorrelationId)
    (desk : ω) : (start options token candidate desk : Client κ ω).InOrder where
  order := List.Sublist.refl _
  unloaded := by simp [start, new]

/-! ## What calls make -/

/-- The token that is in force after a move. -/
def Move.tokenAfter (move : Move κ ω) (token : Option Json) : Option Json :=
  match move with
  | .aside (.setToken next) => next
  | _ => token

/-- The call that a move makes, if it makes one. -/
def Move.made : Move κ ω → Option Issued
  | .call issued _ | .unsent issued => some issued
  | _ => none

/-- The requests that moves make, in order, with the token in force at each; `token` is the one in
force before. -/
def requestsMade : Option Json → List (Move κ ω) → List Outbound
  | _, [] => []
  | token, move :: moves =>
      (move.made.map (fun issued =>
        .request issued.call.id issued.call.path issued.data token)).toList ++
        requestsMade (move.tokenAfter token) moves

/-- An act changes the token only if it sets it. -/
theorem token_perform (act : Act κ ω) (aside : act.isAside = true) (client : Client κ ω) :
    (act.perform client).token = (Move.aside act).tokenAfter client.token := by
  have sent : ∀ (other : Client κ ω) frame, (other.send frame).1.token = other.token := by
    intro other frame
    obtain ⟨channel, backlog, same, -⟩ := other.send_link frame
    rw [same]
  cases act with
  | subscribe topic callback =>
      show (client.subscribe topic callback).1.token = client.token
      unfold subscribe announce
      split
      · rfl
      dsimp only
      split
      · split
        · exact sent _ _
        · rfl
      · rfl
  | unsubscribe handle =>
      show (client.unsubscribe handle).1.token = client.token
      rcases client.unsubscribe_cases handle with same | ⟨same, -⟩ | ⟨topic, -, same⟩ <;> rw [same]
      · rfl
      · rfl
      · unfold withdraw
        split
        · exact sent _ _
        · rfl
  | enlist callback | setToken token | note desk => rfl
  | call | cancel | conclude | expire | abandon => simp [Act.isAside] at aside

/-- What a move does to the token in force, and to the calls made. -/
theorem token_move {move : Move κ ω} (fits : move.Fits licence client) :
    (move.apply client).token = move.tokenAfter client.token ∧
      (move.apply client).issued = client.issued ++ move.made.toList ∧
        ∀ issued ∈ move.made, issued.token = client.token := by
  cases move with
  | aside act =>
      refine ⟨token_perform act fits.2 client, ?_, by simp [Move.made]⟩
      have same : (act.perform client).issued = client.issued :=
        (perform_bystander fits.2 client).issued
      exact same.trans (List.append_nil _).symm
  | call issued limit =>
      refine ⟨?_, client.handOver_issued issued limit, ?_⟩
      · obtain ⟨channel, backlog, handed⟩ := client.handOver_link issued limit
        rw [Move.apply, handed]
        rfl
      · rintro other ⟨⟩
        exact fits.2.token
  | unsent issued =>
      refine ⟨rfl, rfl, ?_⟩
      rintro other ⟨⟩
      exact fits.1.token
  | detach queue =>
      rw [apply_detach]
      exact ⟨rfl, (List.append_nil _).symm, by simp [Move.made]⟩
  | _ => exact ⟨rfl, (List.append_nil _).symm, by simp [Move.made]⟩

/-- The calls made on a path carry the requests that its moves make. -/
theorem Path.requestsMade_eq {first last : Client κ ω} {moves : List (Move κ ω)}
    (path : first.Path licence moves last) :
    last.issued.map (·.request) =
      first.issued.map (·.request) ++ requestsMade first.token moves := by
  induction moves generalizing first with
  | nil =>
      obtain rfl := path.eq_of_nil
      simp [requestsMade]
  | cons move moves ih =>
      obtain ⟨fits, rest⟩ := path.of_cons
      obtain ⟨token, issued, inForce⟩ := token_move fits
      rw [ih rest, issued, token, requestsMade, List.map_append, List.append_assoc]
      cases made : move.made with
      | none => rfl
      | some call =>
          have same : call.token = first.token := inForce call made
          simp [Issued.request, same]

/-- What has been made stays made. -/
theorem Path.issued_prefix {first last : Client κ ω} {moves : List (Move κ ω)}
    (path : first.Path licence moves last) : first.issued <+: last.issued := by
  induction path with
  | still => exact List.prefix_refl _
  | move _ move fits ih =>
      rw [(token_move fits).2.1]
      exact ih.trans (List.prefix_append _ _)

/-- A call that is registered is made with the data it was given and the token in force. -/
theorem issued_call (path : Topic) (data : Json) (limit : Option Span) (client : Client κ ω) :
    (client.call path data limit).1 = client ∨
      ∃ call, (client.calls.register client.candidates path).2 = .admitted call ∧
        call.path = path ∧
          (client.call path data limit).1.issued =
            client.issued ++ [⟨call, data, client.token⟩] := by
  rcases client.call_cases path data limit with refused | ⟨issued, rfl, rfl, books, made⟩
  · exact .inl refused
  · have whole : issued = ⟨issued.call, issued.data, client.token⟩ := by
      rw [← books.token]
    refine .inr ⟨issued.call, books.admitted, rfl, ?_⟩
    rw [← whole]
    rcases made with ⟨handed, -⟩ | ⟨failed, -⟩
    · rw [handed, handOver_issued]
    · rw [failed]
      rfl

/-! ## Runs -/

/-- **Requests are written in the order of their calls, as they were made.**  Take any run, in which
anything may happen: any number of sessions, lost links, writes that fail, and calls by the
application and by callbacks.

* A run is a sequence of moves.  The calls that have been registered carry the requests that its
  moves make, in order: the identifier, the path and the data of the call, with the token in force
  at that move, if there is one.
* The requests that have been written, over all sessions and in the order of writing, are some of
  these, in the same order and unchanged, whatever tokens were set before they were written.
* A call that the application makes is refused without a trace, or it has its place in this order
  after the calls before it, with the identifier that it was registered with, its path, its data
  and the token of that moment. -/
theorem requests_in_order {behave : Behaviour κ ω} (within : behave.Within fun _ => True)
    (events : List (Event κ ω)) (options : Options) (token : Option Json)
    (candidate : Nat → CorrelationId) (desk : ω) :
    let first := start options token candidate desk
    let client := run behave events first
    (∃ moves, first.Path .free moves client) ∧
      (∀ moves, first.Path .free moves client →
        client.issued.map (·.request) = requestsMade token moves ∧
          (requests (client.link.written.map (·.frame))).Sublist (requestsMade token moves)) ∧
      ∀ before path data limit after, events = before ++ .act (.call path data limit) :: after →
        let there := run behave before first
        (there.call path data limit).1 = there ∨
          ∃ call later, (there.calls.register there.candidates path).2 = .admitted call ∧
            call.path = path ∧
              client.issued = there.issued ++ ⟨call, data, there.token⟩ :: later := by
  intro first client
  have poised : first.Poised := start_poised options token candidate desk
  have reaches : Reaches .free first client :=
    (run_arrives within.free poised fun event _ => within_free event).reaches
  refine ⟨reaches, fun moves path => ?_, ?_⟩
  · have made : client.issued.map (·.request) = requestsMade token moves := path.requestsMade_eq
    have inOrder : client.InOrder :=
      path.preserves (fun _ _ coherent inOrder fits => inOrder.move coherent fits)
        poised.toCoherent (start_inOrder options token candidate desk)
    have written : (requests (client.link.written.map (·.frame))).Sublist
        (requests client.queue) := by
      refine requests_sublist ?_
      rw [queue, List.append_assoc, List.append_assoc]
      exact List.sublist_append_left _ _
    exact ⟨made, made ▸ written.trans inOrder.order⟩
  · rintro before path data limit after rfl there
    rcases issued_call path data limit there with refused | ⟨call, admitted, samePath, issued⟩
    · exact .inl refused
    · right
      have poisedThere : (there.call path data limit).1.Poised :=
        poised_step within (poised_run within poised before) (.act (.call path data limit))
      have rest : Reaches .free _ (run behave after (there.call path data limit).1) :=
        (run_arrives within.free poisedThere fun event _ => within_free event).reaches
      obtain ⟨moves, onwards⟩ := rest
      obtain ⟨later, whole⟩ := onwards.issued_prefix
      have split : client = run behave after (there.call path data limit).1 :=
        run_append behave before (.act (.call path data limit) :: after) first
      refine ⟨call, later, admitted, samePath, ?_⟩
      rw [split, ← whole, issued, List.append_assoc]
      rfl

/-- A call with a null token that has to wait, another token, and a call without one. -/
def retold : List (Event Unit Unit) :=
  [.act (.call ⟨["orders"]⟩ (.bool true) none), .act (.setToken (some (.bool false))),
    .connect true "ws://a", .attempt, .opened, .settled none, .act (.setToken none),
    .act (.call ⟨["robot"]⟩ .null none), .proceed, .proceed, .proceed, .proceed, .emit]

/-- What a request asks, and with which token. -/
def asked : Outbound → Option (Topic × Json × Option Json)
  | .request _ path data token => some (path, data, token)
  | _ => none

theorem requests_in_order_retold :
    let client := run silent retold
      (start { queueCalls := true } (some .null) CorrelationId.drawn ())
    (client.link.written.map (·.frame)).filterMap asked =
        [(⟨["orders"]⟩, .bool true, some .null), (⟨["robot"]⟩, .null, none)] ∧
      ∃ moves, (start { queueCalls := true } (some .null) CorrelationId.drawn ()).Path .free moves
          client ∧
        (requests (client.link.written.map (·.frame))).Sublist
          (requestsMade (some .null) moves) := by
  intro client
  have written : ((run silent retold (start { queueCalls := true } (some .null)
      CorrelationId.drawn ())).link.written.map (·.frame)).filterMap asked =
        [(⟨["orders"]⟩, .bool true, some .null), (⟨["robot"]⟩, .null, none)] := by cbv
  obtain ⟨⟨moves, path⟩, inOrder, -⟩ := requests_in_order (silent_within _) retold
    { queueCalls := true } (some .null) CorrelationId.drawn ()
  exact ⟨written, moves, path, (inOrder moves path).2⟩

end Client

end Switchboard
