import FluxCorpus.Http.Message

/-!
# Dialogues with a server

A `Dialogue` is a computation that makes requests one after the other and goes on with the reply to
each.  It says nothing about how a request is delivered: `play` holds it against a list of replies,
and tells which request met which reply.
-/

namespace FluxCorpus.Http

/-- A computation that may make requests. -/
inductive Dialogue (α : Type)
  | done (a : α)
  | ask (request : Request) (next : Reply → Dialogue α)

namespace Dialogue

variable {α β : Type}

/-- A dialogue followed by another one. -/
def andThen (d : Dialogue α) (f : α → Dialogue β) : Dialogue β :=
  match d with
  | done a => f a
  | ask r next => ask r fun reply => (next reply).andThen f

instance : Monad Dialogue where
  pure := done
  bind := andThen

theorem andThen_done (d : Dialogue α) : d.andThen done = d := by
  induction d with
  | done a => rfl
  | ask r next ih => simp only [andThen, ih]

theorem andThen_andThen {γ : Type} (d : Dialogue α) (f : α → Dialogue β) (g : β → Dialogue γ) :
    (d.andThen f).andThen g = d.andThen fun a => (f a).andThen g := by
  induction d with
  | done a => rfl
  | ask r next ih => simp only [andThen, ih]

instance : LawfulMonad Dialogue := LawfulMonad.mk' Dialogue
  andThen_done
  (fun _ _ => rfl)
  andThen_andThen

/-- Makes one request. -/
def reply (r : Request) : Dialogue Reply := ask r done

/-- A request and the reply to it. -/
structure Exchange where
  request : Request
  reply : Reply

/-- What a dialogue leads to: its result, the exchanges in order, and the replies that are left. -/
structure Transcript (α : Type) where
  result : α
  exchanges : List Exchange
  unused : List Reply

/-- Holds a dialogue against replies.  When they are used up, each further request meets the reply
`otherwise`. -/
def play (otherwise : Reply) : Dialogue α → List Reply → Transcript α
  | done a, replies => ⟨a, [], replies⟩
  | ask r next, replies =>
    let reply := replies.headD otherwise
    let t := play otherwise (next reply) replies.tail
    { t with exchanges := ⟨r, reply⟩ :: t.exchanges }

/-- The requests that reached a server. -/
def Transcript.delivered (t : Transcript α) : List Request :=
  (t.exchanges.filter fun e => e.reply.isOk).map Exchange.request

end Dialogue

end FluxCorpus.Http
