/-
# Switchboard.Proofs.Lookalikes -- frames that leave the same message

A frame reaches the server as a message.  The identifier of that message says nothing
about the frame, except which call a request makes.  So two frames look alike
(`Outbound.LooksLike`) if their messages agree in all other fields, and two requests only
if they make the same call.

The words by which topics are announced and withdrawn are reserved, but no check keeps
them from being called.  A request that calls one of them, with a topic's wire form as its
payload and without a credential, poses as the announcement or the withdrawal of that topic
(`Outbound.PosesAs`).

* `Outbound.LooksLike.eq_of_isRequest`, `Outbound.LooksLike.eq_of_not_isRequest`: requests are told
  apart, and so are all other frames;
* `Outbound.LooksLike.posesAs`: a request that looks like another frame poses as it;
* `Outbound.looksLike_ne_iff`: nothing else confuses frames of canonical topics.
-/
import Switchboard.Outbound
import Switchboard.Proofs.Spelling
import Switchboard.Proofs.WireForm

namespace Switchboard

set_option autoImplicit false

/-- Whether two messages agree in every field other than their identifier. -/
structure Envelope.Resembles (envelope other : Envelope) : Prop where
  replyingTo : envelope.replyingTo = other.replyingTo
  path : envelope.path = other.path
  data : envelope.data = other.data
  error : envelope.error = other.error
  token : envelope.token = other.token

namespace Outbound

/-- Whether the topic or the path of a frame is canonical. -/
def Canonical : Outbound → Prop
  | .subscribe topic => topic.Canonical
  | .unsubscribe topic => topic.Canonical
  | .request _ path _ _ => path.Canonical
  | .pong _ => True

/-- Whether the messages of two frames differ in their identifiers at most, and for two requests
not even in these.  The fresh identifiers are for frames that are no requests. -/
structure LooksLike (fresh freshOther : CorrelationId) (frame other : Outbound) : Prop where
  resembles : (frame.envelope fresh).Resembles (other.envelope freshOther)
  messageId : frame.isRequest → other.isRequest →
    (frame.envelope fresh).messageId = (other.envelope freshOther).messageId

/-- Whether the first frame is a request that calls the reserved word of the second frame, without
a credential, and carries the wire form of its topic. -/
inductive PosesAs : Outbound → Outbound → Prop where
  | subscribe (id : CorrelationId) (topic : Topic) :
      PosesAs (.request id ⟨["subscribe"]⟩ (.string topic.wire) none) (.subscribe topic)
  | unsubscribe (id : CorrelationId) (topic : Topic) :
      PosesAs (.request id ⟨["unsubscribe"]⟩ (.string topic.wire) none) (.unsubscribe topic)

variable {fresh freshOther : CorrelationId} {frame other : Outbound}

namespace LooksLike

theorem symm (alike : LooksLike fresh freshOther frame other) :
    LooksLike freshOther fresh other frame where
  resembles :=
    { replyingTo := alike.resembles.replyingTo.symm
      path := alike.resembles.path.symm
      data := alike.resembles.data.symm
      error := alike.resembles.error.symm
      token := alike.resembles.token.symm }
  messageId request requestOther := (alike.messageId requestOther request).symm

/-- Requests that look alike are the same. -/
theorem eq_of_isRequest (alike : LooksLike fresh freshOther frame other)
    (canonical : frame.Canonical) (canonicalOther : other.Canonical)
    (request : frame.isRequest = true) (requestOther : other.isRequest = true) : frame = other := by
  obtain ⟨id, called⟩ := Option.isSome_iff_exists.1 request
  obtain ⟨idOther, calledOther⟩ := Option.isSome_iff_exists.1 requestOther
  obtain ⟨path, data, token, rfl⟩ := (requestId_eq_some frame id).1 called
  obtain ⟨pathOther, dataOther, tokenOther, rfl⟩ := (requestId_eq_some other idOther).1 calledOther
  obtain rfl : id = idOther := CorrelationId.text_injective (alike.messageId request requestOther)
  obtain rfl : path = pathOther :=
    Topic.wire_injective canonical canonicalOther alike.resembles.path
  obtain rfl : data = dataOther := Option.some.inj alike.resembles.data
  obtain rfl : token = tokenOther := alike.resembles.token
  rfl

/-- Frames that look alike and are no requests are the same. -/
theorem eq_of_not_isRequest (alike : LooksLike fresh freshOther frame other)
    (canonical : frame.Canonical) (canonicalOther : other.Canonical)
    (request : frame.isRequest = false) (requestOther : other.isRequest = false) :
    frame = other := by
  obtain ⟨⟨replyingTo, path, data, -, -⟩, -⟩ := alike
  -- the path tells the kinds apart, the payload the topics, and the answered ping the pongs
  cases frame <;> cases other <;> simp_all [isRequest, requestId, envelope, envelopeAs]
  case subscribe.subscribe => exact Topic.wire_injective canonical canonicalOther data
  case unsubscribe.unsubscribe => exact Topic.wire_injective canonical canonicalOther data

/-- A request that looks like a frame of another kind poses as it. -/
theorem posesAs (alike : LooksLike fresh freshOther frame other) (canonical : frame.Canonical)
    (request : frame.isRequest = true) (requestOther : other.isRequest = false) :
    frame.PosesAs other := by
  obtain ⟨id, called⟩ := Option.isSome_iff_exists.1 request
  obtain ⟨path, data, token, rfl⟩ := (requestId_eq_some frame id).1 called
  obtain ⟨⟨replyingTo, samePath, sameData, -, sameToken⟩, -⟩ := alike
  cases other with
  | subscribe topic | unsubscribe topic =>
      simp only [envelope, envelopeAs, Option.some.injEq] at samePath sameData sameToken
      have called := (Topic.wire_eq_word_iff (by decide) (by decide) canonical).1 samePath
      subst called sameData sameToken
      constructor
  | request => simp [isRequest, requestId] at requestOther
  | pong replyTo => simp [envelope, envelopeAs] at replyingTo

end LooksLike

namespace PosesAs

/-- A request that poses as another frame looks like it. -/
theorem looksLike (poses : frame.PosesAs other) : LooksLike fresh freshOther frame other where
  resembles := by cases poses <;> constructor <;> simp [envelope, envelopeAs]
  messageId := by cases poses <;> simp [isRequest, requestId]

theorem ne (poses : frame.PosesAs other) : frame ≠ other := by
  cases poses <;> simp

end PosesAs

/-- **Two different frames look alike exactly if one is a request that poses as the other.**

The topics and paths are canonical.  Whatever the fresh identifiers are, frames whose messages agree
in every field other than the identifier, and for two requests in the identifier too, are then the
same, except that a request can pose as an announcement or as a withdrawal. -/
theorem looksLike_ne_iff (fresh freshOther : CorrelationId) (frame other : Outbound)
    (canonical : frame.Canonical) (canonicalOther : other.Canonical) :
    LooksLike fresh freshOther frame other ∧ frame ≠ other ↔
      frame.PosesAs other ∨ other.PosesAs frame := by
  constructor
  · rintro ⟨alike, different⟩
    cases request : frame.isRequest <;> cases requestOther : other.isRequest
    · exact absurd (alike.eq_of_not_isRequest canonical canonicalOther request requestOther)
        different
    · exact .inr (alike.symm.posesAs canonicalOther requestOther request)
    · exact .inl (alike.posesAs canonical request requestOther)
    · exact absurd (alike.eq_of_isRequest canonical canonicalOther request requestOther) different
  · rintro (poses | poses)
    · exact ⟨poses.looksLike, poses.ne⟩
    · exact ⟨poses.looksLike.symm, poses.ne.symm⟩

/-- A call of the reserved word poses as an announcement; with a credential it does not, not even
if that is null. -/
theorem looksLike_ne_iff_subscribe :
    let announcement : Outbound := .subscribe ⟨["arena", "state"]⟩
    let posing : Outbound := .request ⟨7⟩ ⟨["subscribe"]⟩ (.string "arena/state") none
    let honest : Outbound := .request ⟨7⟩ ⟨["subscribe"]⟩ (.string "arena/state") (some .null)
    announcement.Canonical ∧ posing.Canonical ∧ honest.Canonical ∧
      LooksLike ⟨1⟩ ⟨2⟩ posing announcement ∧ posing ≠ announcement ∧
        ¬ LooksLike ⟨1⟩ ⟨2⟩ honest announcement := by
  intro announcement posing honest
  have wire : (⟨["arena", "state"]⟩ : Topic).wire = "arena/state" := by decide +kernel
  have canonical : announcement.Canonical := by simp [announcement, Canonical, Topic.Canonical]
  have reserved : (⟨["subscribe"]⟩ : Topic).Canonical := by simp [Topic.Canonical]
  have poses : posing.PosesAs announcement := by
    have pose := PosesAs.subscribe ⟨7⟩ ⟨["arena", "state"]⟩
    rwa [wire] at pose
  obtain ⟨alike, different⟩ :=
    (looksLike_ne_iff ⟨1⟩ ⟨2⟩ posing announcement reserved canonical).2 (.inl poses)
  refine ⟨canonical, reserved, reserved, alike, different, fun alike => ?_⟩
  have token : some Json.null = none := alike.resembles.token
  cases token

end Outbound

end Switchboard
