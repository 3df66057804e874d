import SheetQuery.Proofs.Chat.Exchange

/-!
# One message, one reply

Of the messages of any chats, each gets one reply, however they come in and in whichever order their
searches end. Only a search that a later one of its chat on its sheet supersedes before it ends gets
none.

* `Exchange.converse_is_exchange`: the replies to messages that come in at once are those of an
  exchange after which no search waits;
* `Exchange.every_message_gets_one_reply`: the replies in any exchange.
-/

namespace SheetQuery.Chat.Exchange

variable {σ : Type}

/-! ## Messages that come in at once -/

/-- The searches among received messages that wait, if the first one has the given number. -/
def waitingFrom (number : Nat) : List Pending → List Waiting
  | [] => []
  | .answered _ :: pending => waitingFrom (number + 1) pending
  | .waiting chat ticket :: pending => ⟨number, chat, ticket⟩ :: waitingFrom (number + 1) pending

/-- Has a message been answered with a reply? -/
def Tells (exchange : Exchange) (number : Nat) (reply : Option String) : Prop :=
  ∃ answer ∈ exchange.answers, answer.number = number ∧ answer.reply = reply

theorem waitingFrom_cons (number : Nat) (first : Pending) (pending : List Pending) :
    waitingFrom number (first :: pending) =
      waitingFrom number [first] ++ waitingFrom (number + 1) pending := by
  cases first <;> rfl

variable {exchange : Exchange} {number : Nat} {reply : Option String}

/-- An answer is never taken back. -/
theorem subset_step (transport : Transport σ) (exchange : Exchange) (event : Event σ) :
    exchange.answers ⊆ (exchange.step transport event).answers := by
  cases event with
  | incoming message s =>
    simp only [step, receive]
    rcases exchange.bot.receive transport message s with ⟨_ | _, next, rest⟩
    · exact List.subset_cons_self _ _
    · exact List.Subset.refl _
  | resolved place result =>
    simp only [step, resolve]
    split
    · exact List.Subset.refl _
    · exact List.subset_cons_self _ _

theorem subset_run (transport : Transport σ) (exchange : Exchange) (events : List (Event σ)) :
    exchange.answers ⊆ (exchange.run transport events).answers := by
  induction events generalizing exchange with
  | nil => exact List.Subset.refl _
  | cons event events ih => exact List.Subset.trans (subset_step transport exchange event) (ih _)

theorem Tells.run (h : exchange.Tells number reply) (transport : Transport σ)
    (events : List (Event σ)) : (exchange.run transport events).Tells number reply := by
  obtain ⟨answer, hanswer, htells⟩ := h
  exact ⟨answer, subset_run transport exchange events hanswer, htells⟩

/-- What a message does to an exchange. -/
theorem receive_spec (transport : Transport σ) (exchange : Exchange) (message : Message) (s : σ) :
    let received := exchange.bot.receive transport message s
    let next := exchange.receive transport message s
    next.bot = received.2.1 ∧ next.count = exchange.count + 1 ∧
      next.waiting = exchange.waiting ++ waitingFrom exchange.count [received.1] ∧
      ∀ reply, received.1 = .answered reply → next.Tells exchange.count (some reply) := by
  intro received next
  simp only [received, next, receive]
  rcases exchange.bot.receive transport message s with ⟨reply | ⟨chat, ticket⟩, bot, rest⟩
  · refine ⟨rfl, rfl, (List.append_nil _).symm, fun found hfound => ?_⟩
    obtain rfl := Pending.answered.inj hfound
    exact ⟨_, List.mem_cons_self, rfl, rfl⟩
  · exact ⟨rfl, rfl, rfl, nofun⟩

/-- Have all of the received messages that wait for nothing been answered? -/
def TellsOf (exchange : Exchange) (number : Nat) (pending : List Pending) : Prop :=
  ∀ entry ∈ pending.zipIdx number, ∀ reply, entry.1 = .answered reply →
    exchange.Tells entry.2 (some reply)

theorem tellsOf_cons {first : Pending} {pending : List Pending} :
    exchange.TellsOf number (first :: pending) ↔
      (∀ reply, first = .answered reply → exchange.Tells number (some reply)) ∧
        exchange.TellsOf (number + 1) pending := by
  rw [TellsOf, List.zipIdx_cons, List.forall_mem_cons]
  rfl

theorem exists_run_receiveAll (transport : Transport σ) (messages : List Message)
    (exchange : Exchange) (s : σ) :
    ∃ events : List (Event σ), events.filterMap Event.message? = messages ∧
      let received := exchange.bot.receiveAll transport s messages
      let next := exchange.run transport events
      next.bot = received.2.1 ∧
        next.waiting = exchange.waiting ++ waitingFrom exchange.count received.1 ∧
        received.1.length = messages.length ∧ next.TellsOf exchange.count received.1 := by
  induction messages generalizing exchange s with
  | nil => exact ⟨[], rfl, rfl, (List.append_nil _).symm, rfl, nofun⟩
  | cons message messages ih =>
    -- the first message is received as an event, and the rest from the exchange that it leaves
    obtain ⟨hbot, hcount, hwaiting, htells⟩ := receive_spec transport exchange message s
    obtain ⟨events, hmessages, hbot', hwaiting', hlength, htells'⟩ :=
      ih (exchange.receive transport message s) (exchange.bot.receive transport message s).2.2
    rw [hbot] at hbot' hwaiting' hlength htells'
    rw [hcount] at hwaiting' htells'
    refine ⟨.incoming message s :: events, congrArg _ hmessages, hbot', ?_, congrArg _ hlength,
      tellsOf_cons.mpr ⟨fun reply hreply => (htells reply hreply).run transport events, htells'⟩⟩
    rw [Bot.receiveAll, waitingFrom_cons, ← List.append_assoc, ← hwaiting]
    exact hwaiting'

/-- The end of the waiting search that came first. -/
theorem resolve_zero {number : Nat} {chat : Int} {ticket : Ticket} {rest : List Waiting}
    (h : exchange.waiting = ⟨number, chat, ticket⟩ :: rest) (result : Except Failure Resolved) :
    let next := exchange.resolve 0 result
    next.bot = (exchange.bot.settle chat ticket result).2 ∧ next.waiting = rest ∧
      next.Tells number (exchange.bot.settle chat ticket result).1 := by
  simp only [resolve, h, List.getElem?_cons_zero, List.eraseIdx_cons_zero, true_and]
  exact ⟨_, List.mem_cons_self, rfl, rfl⟩

theorem TellsOf.step {pending : List Pending} (h : exchange.TellsOf number pending)
    (transport : Transport σ) (event : Event σ) :
    (exchange.step transport event).TellsOf number pending :=
  fun entry hentry reply hreply => (h entry hentry reply hreply).run transport [event]

theorem exists_run_answerAll (transport : Transport σ) (pending : List Pending)
    (exchange : Exchange) (number : Nat) (s : σ)
    (hwaiting : exchange.waiting = waitingFrom number pending)
    (htells : exchange.TellsOf number pending) :
    ∃ events : List (Event σ), events.filterMap Event.message? = [] ∧
      let answered := exchange.bot.answerAll transport s pending
      let next := exchange.run transport events
      next.bot = answered.2.1 ∧ next.waiting = [] ∧ answered.1.length = pending.length ∧
        ∀ entry ∈ answered.1.zipIdx number, next.Tells entry.2 entry.1 := by
  induction pending generalizing exchange number s with
  | nil => exact ⟨[], rfl, rfl, hwaiting, rfl, nofun⟩
  | cons first pending ih =>
    obtain ⟨hfirst, hlater⟩ := tellsOf_cons.mp htells
    cases first with
    | answered reply =>
      obtain ⟨events, hmessages, hbot, hnone, hlength, hreplies⟩ :=
        ih exchange (number + 1) s hwaiting hlater
      exact ⟨events, hmessages, hbot, hnone, congrArg _ hlength,
        List.forall_mem_cons.mpr ⟨(hfirst reply rfl).run transport events, hreplies⟩⟩
    | waiting chat ticket =>
      -- waiting searches stand in the order of their messages, so this one is the first of them
      obtain ⟨result, s', hanswer⟩ := exchange.bot.exists_settle transport chat ticket s
      obtain ⟨hbot', hwaiting', htold⟩ := resolve_zero hwaiting result
      obtain ⟨events, hmessages, hbot, hnone, hlength, hreplies⟩ :=
        ih (exchange.resolve 0 result) (number + 1) s' hwaiting'
          (hlater.step transport (.resolved 0 result))
      rw [hbot'] at hbot hlength hreplies
      refine ⟨.resolved 0 result :: events, hmessages, ?_⟩
      simp only [run_cons, step, Bot.answerAll, hanswer]
      exact ⟨hbot, hnone, congrArg _ hlength,
        List.forall_mem_cons.mpr ⟨htold.run transport events, hreplies⟩⟩

/-- The replies to messages that come in at once are those of an exchange after which no search
waits. -/
theorem converse_is_exchange (bot : Bot) (transport : Transport σ) (messages : List Message) (s : σ) :
    ∃ events : List (Event σ), events.filterMap Event.message? = messages ∧
      let answered := bot.converse transport messages s
      let exchange := (opening bot).run transport events
      exchange.bot = answered.2.1 ∧ exchange.waiting = [] ∧
        answered.1.length = messages.length ∧
        ∀ entry ∈ answered.1.zipIdx, exchange.Tells entry.2 entry.1 := by
  obtain ⟨first, hmessages, hbot, hwaiting, hlength, htells⟩ :=
    exists_run_receiveAll transport messages (opening bot) s
  obtain ⟨rest, hnone, hbot', hwaiting', hlength', htells'⟩ :=
    exists_run_answerAll transport _ _ 0 (bot.receiveAll transport s messages).2.2 hwaiting htells
  rw [hbot] at hbot' hlength' htells'
  refine ⟨first ++ rest, ?_, ?_⟩
  · rw [List.filterMap_append, hmessages, hnone, List.append_nil]
  · rw [run_append]
    exact ⟨hbot', hwaiting', hlength'.trans hlength, htells'⟩

/-! ## One message, one reply -/

/-- **One message, one reply.** Let messages of any chats come in, and searches end, in any order and
whatever their resolutions come to, failures included.

* Every message is answered exactly once, unless it is a search that still waits.
* It is left without a reply if and only if, by the time of its answer, a later search of its chat on
  the same sheet had come in while it waited.
* The sheet of a chat is the one that its own messages chose last.
* If a search failed with anything but a refusal of its input, the reply is one of two fixed texts.
* When messages come in at once, none is left waiting, and the bot's replies are the answers of such
  an exchange. -/
theorem every_message_gets_one_reply (bot : Bot) (transport : Transport σ) :
    (∀ events : List (Event σ),
      let messages := events.filterMap Event.message?
      let exchange := (opening bot).run transport events
      (exchange.answers.map Answer.number ++ exchange.waiting.map Waiting.number).Perm
          (List.range messages.length) ∧
        (∀ answer ∈ exchange.answers, answer.reply = none ↔
          ∃ newer < answer.seen, Supersedes bot messages newer answer.number) ∧
        (∀ chat, exchange.bot.entity chat = bot.selected messages chat) ∧
        ∀ answer ∈ exchange.answers, ∀ failure, answer.failure = some failure →
          (∃ text, failure = .input text ∧ answer.reply = some text) ∨
            answer.reply = some Reply.unresolved ∨ answer.reply = some Reply.snag) ∧
    ∀ (messages : List Message) (s : σ),
      ∃ events : List (Event σ), events.filterMap Event.message? = messages ∧
        let answered := bot.converse transport messages s
        let exchange := (opening bot).run transport events
        exchange.bot = answered.2.1 ∧ exchange.waiting = [] ∧
          answered.1.length = messages.length ∧
          ∀ entry ∈ answered.1.zipIdx, exchange.Tells entry.2 entry.1 := by
  refine ⟨fun events => ?_, converse_is_exchange bot transport⟩
  have hsound := (sound_opening bot).run transport events
  rw [List.nil_append] at hsound
  exact ⟨hsound.numbers, fun answer hanswer => (hsound.fits answer hanswer).silent,
    hsound.selected, fun answer hanswer => (hsound.fits answer hanswer).discreet⟩

/-- Two searches of one chat on one sheet, the second one sent before the first one ends: the first
one is left without a reply, and the second one fails and is told so. -/
theorem slow_message_gets_no_reply :
    let settings : Settings :=
      ⟨"", none, false, ⟨"", "", Endpoint.defaultTimeout⟩, 4, 4, 5⟩
    let bot : Bot := Bot.create settings ⟨Office.jobs, fun _ => none⟩
    let transport : Transport Unit := ⟨fun _ s => (.unreachable, s)⟩
    let messages : List Message := [⟨7, some "Duration at most 2", none⟩, ⟨7, some "What?", none⟩]
    let unresolved : Except Failure Resolved := .error (.unresolved .noResponse none none)
    let events : List (Event Unit) :=
      messages.map (.incoming · ()) ++ [.resolved 0 unresolved, .resolved 0 unresolved]
    let exchange := (opening bot).run transport events
    (∃ answer ∈ exchange.answers, answer.number = 0 ∧ answer.reply = none ∧
      ∃ newer < answer.seen, Supersedes bot messages newer 0) ∧
    ∃ answer ∈ exchange.answers, answer.number = 1 ∧ answer.reply = some Reply.unresolved := by
  intro settings bot transport messages unresolved events exchange
  have hanswers : exchange.answers.map (fun answer => (answer.number, answer.reply)) =
      [(1, some Reply.unresolved), (0, none)] := by
    decide +kernel
  have hfirst : (0, none) ∈ exchange.answers.map fun answer => (answer.number, answer.reply) := by
    simp [hanswers]
  have hsecond : (1, some Reply.unresolved) ∈
      exchange.answers.map fun answer => (answer.number, answer.reply) := by
    simp [hanswers]
  obtain ⟨first, hfirst, hentry⟩ := List.mem_map.mp hfirst
  obtain ⟨second, hsecond, hother⟩ := List.mem_map.mp hsecond
  obtain ⟨hnumber, hnone⟩ := Prod.mk.inj hentry
  -- that the first message got no reply shows that it was superseded
  obtain ⟨-, hsilent, -⟩ := (every_message_gets_one_reply bot transport).1 events
  have hnewer := (hsilent first hfirst).mp hnone
  rw [hnumber] at hnewer
  exact ⟨⟨first, hfirst, hnumber, hnone, hnewer⟩, second, hsecond, Prod.mk.inj hother⟩

end SheetQuery.Chat.Exchange
