import SheetQuery.Proofs.Chat.Steps

/-!
# Exchanges between the bot and its chats

An exchange is what happens between the bot and its chats: messages come in, and waiting searches
end, in any order and whatever their resolutions come to. Messages are numbered in the order in which
they come in. What each one was answered with is written down, with how many messages had come in by
then.

* `Supersedes`: when a message takes the place of an earlier one, read off the messages alone;
* `Exchange`, `Exchange.Event`, `Exchange.run`: exchanges, and what may happen in them;
* `Exchange.Pends`, `Exchange.Fits`: what the messages so far say about a waiting search and about an
  answer;
* `Exchange.Sound`: both, for a whole exchange; one event keeps it (`Sound.step`), hence every
  exchange has it (`Sound.run`).
-/

namespace SheetQuery.Chat

/-! ## Messages in order -/

/-- The sheet of a chat after messages: the one that its own messages chose last. -/
def Bot.selected (bot : Bot) (messages : List Message) (chat : Int) : Entity :=
  ((messages.filterMap (·.choice? chat)).getLast?).getD (bot.entity chat)

/-- Is the message with a number a search of a chat on a sheet? -/
def Searches (bot : Bot) (messages : List Message) (number : Nat) (chat : Int) (entity : Entity) :
    Prop :=
  ∃ message, messages[number]? = some message ∧ message.Asks ∧ message.chat = chat ∧
    bot.selected (messages.take number) chat = entity

/-- Does a later message take the place of an earlier one? Both are searches of one chat on one
sheet. -/
def Supersedes (bot : Bot) (messages : List Message) (newer older : Nat) : Prop :=
  older < newer ∧ ∃ chat entity,
    Searches bot messages older chat entity ∧ Searches bot messages newer chat entity

section messages

variable {bot : Bot} {messages : List Message} {message : Message} {number newer older : Nat}
  {chat : Int} {entity : Entity}

theorem Bot.selected_concat (bot : Bot) (messages : List Message) (message : Message) (chat : Int) :
    bot.selected (messages ++ [message]) chat =
      (message.choice? chat).getD (bot.selected messages chat) := by
  unfold Bot.selected
  cases hchoice : message.choice? chat <;> simp [hchoice]

/-- What is said of a message does not depend on those that come in after it. -/
theorem searches_concat_of_lt (message : Message) (h : number < messages.length) :
    Searches bot (messages ++ [message]) number chat entity ↔
      Searches bot messages number chat entity := by
  rw [Searches, Searches, List.getElem?_append_left h, List.take_append_of_le_length h.le]

theorem Searches.lt (h : Searches bot messages number chat entity) : number < messages.length := by
  obtain ⟨message, hmessage, -⟩ := h
  exact (List.getElem?_eq_some_iff.mp hmessage).1

theorem searches_concat_self : Searches bot (messages ++ [message]) messages.length chat entity ↔
    message.Asks ∧ message.chat = chat ∧ bot.selected messages chat = entity := by
  simp [Searches]

theorem Searches.concat (h : Searches bot messages number chat entity) (message : Message) :
    Searches bot (messages ++ [message]) number chat entity :=
  (searches_concat_of_lt message h.lt).mpr h

/-- A message is a search of one chat on one sheet. -/
theorem Searches.unique {other : Int} {sheet : Entity} (h : Searches bot messages number chat entity)
    (hother : Searches bot messages number other sheet) : other = chat ∧ sheet = entity := by
  obtain ⟨message, hmessage, -, hchat, hentity⟩ := h
  obtain ⟨again, hagain, -, hother, hsheet⟩ := hother
  obtain rfl := Option.some.inj (hmessage.symm.trans hagain)
  obtain rfl := hchat.symm.trans hother
  exact ⟨rfl, hsheet.symm.trans hentity⟩

theorem supersedes_concat_of_lt (message : Message) (h : newer < messages.length) :
    Supersedes bot (messages ++ [message]) newer older ↔ Supersedes bot messages newer older := by
  refine and_congr_right fun holder => ?_
  simp only [searches_concat_of_lt message h, searches_concat_of_lt message (holder.trans h)]

/-- No search of a chat on a sheet comes after a message, once another message has come in, if none
did before, and the other message is none either. -/
theorem forall_not_searches_concat (h : number < messages.length) :
    (∀ newer, number < newer → ¬ Searches bot (messages ++ [message]) newer chat entity) ↔
      (∀ newer, number < newer → ¬ Searches bot messages newer chat entity) ∧
        ¬ Searches bot (messages ++ [message]) messages.length chat entity := by
  constructor
  · intro hnone
    exact ⟨fun newer hlt hnewer => hnone newer hlt (hnewer.concat message), hnone _ h⟩
  · rintro ⟨hnone, hlast⟩ newer hlt hnewer
    have hle : newer ≤ messages.length := by
      have := hnewer.lt
      rw [List.length_append, List.length_singleton] at this
      omega
    rcases hle.lt_or_eq with hbefore | rfl
    · exact hnone newer hlt ((searches_concat_of_lt message hbefore).mp hnewer)
    · exact hlast hnewer

end messages

/-! ## Exchanges -/

/-- A search that waits for its resolution, with the number of its message. -/
structure Waiting where
  number : Nat
  chat : Int
  ticket : Ticket

/-- What a message was answered with, with its number, how many messages had come in by then, and
what it failed with, if it is a search that failed. -/
structure Answer where
  number : Nat
  seen : Nat
  /-- Perhaps there is no reply. -/
  reply : Option String
  failure : Option Failure

/-- The bot, how many messages have come in, the searches that wait and the answers so far. -/
structure Exchange where
  bot : Bot
  count : Nat
  waiting : List Waiting
  answers : List Answer

namespace Exchange

/-- What may happen: a message comes in, while the service is in some state, or the waiting search at
some place ends. -/
inductive Event (σ : Type) where
  | incoming (message : Message) (s : σ)
  | resolved (place : Nat) (result : Except Failure Resolved)

/-- The message that comes in with an event. -/
def Event.message? {σ : Type} : Event σ → Option Message
  | .incoming message _ => some message
  | .resolved .. => none

/-- The exchange before its first message. The bot may have been through other exchanges, but no
search of one still waits: an exchange goes on for as long as one does. -/
def opening (bot : Bot) : Exchange := ⟨bot, 0, [], []⟩

/-- A waiting search ends. -/
def resolve (exchange : Exchange) (place : Nat) (result : Except Failure Resolved) : Exchange :=
  match exchange.waiting[place]? with
  | none => exchange
  | some ⟨number, chat, ticket⟩ =>
    let (reply, bot) := exchange.bot.settle chat ticket result
    let failure := exchange.bot.lateFailure? chat ticket result
    { exchange with
      bot, waiting := exchange.waiting.eraseIdx place,
      answers := ⟨number, exchange.count, reply, failure⟩ :: exchange.answers }

variable {σ : Type}

/-- A message comes in. -/
def receive (transport : Transport σ) (exchange : Exchange) (message : Message) (s : σ) : Exchange :=
  let (pending, bot, _) := exchange.bot.receive transport message s
  match pending with
  | .answered reply =>
    let answer : Answer :=
      ⟨exchange.count, exchange.count + 1, some reply, exchange.bot.earlyFailure? message⟩
    { exchange with bot, count := exchange.count + 1, answers := answer :: exchange.answers }
  | .waiting chat ticket =>
    { exchange with
      bot, count := exchange.count + 1,
      waiting := exchange.waiting ++ [⟨exchange.count, chat, ticket⟩] }

def step (transport : Transport σ) (exchange : Exchange) : Event σ → Exchange
  | .incoming message s => exchange.receive transport message s
  | .resolved place result => exchange.resolve place result

def run (transport : Transport σ) (exchange : Exchange) (events : List (Event σ)) : Exchange :=
  events.foldl (step transport) exchange

@[simp] theorem run_nil (transport : Transport σ) (exchange : Exchange) :
    exchange.run transport [] = exchange := rfl

@[simp] theorem run_cons (transport : Transport σ) (exchange : Exchange) (event : Event σ)
    (events : List (Event σ)) :
    exchange.run transport (event :: events) =
      (exchange.step transport event).run transport events := rfl

theorem run_append (transport : Transport σ) (exchange : Exchange) (events more : List (Event σ)) :
    exchange.run transport (events ++ more) =
      (exchange.run transport events).run transport more :=
  List.foldl_append

/-! ## Waiting searches -/

/-- What is known of a waiting search: the message it stands for, and that its chat's session counts
it as the latest on its sheet until a later message supersedes it. Its sheet has rows and columns, so
that a later search on it is not refused. -/
structure Pends (bot : Bot) (messages : List Message) (now : Bot) (waiting : Waiting) : Prop where
  searches : Searches bot messages waiting.number waiting.chat waiting.ticket.search.entity
  latest : (now.session waiting.chat).isCurrent waiting.ticket = true ↔
    ∀ newer, waiting.number < newer →
      ¬ Searches bot messages newer waiting.chat waiting.ticket.search.entity
  seq_le : waiting.ticket.seq ≤ (now.session waiting.chat).lastSeq
  loaded : now.desk.store.rows waiting.ticket.search.entity ≠ []
  headed : Schema.infer (now.desk.store.rows waiting.ticket.search.entity)
    now.settings.samples ≠ []

variable {bot now next : Bot} {messages : List Message} {message : Message} {waiting : Waiting}

/-- A message leaves a search waiting as before, but for being the latest, which it takes from it if
it supersedes it. -/
theorem Pends.concat (h : Pends bot messages now waiting) (hsettings : next.settings = now.settings)
    (hrows : next.desk.store.rows = now.desk.store.rows)
    (hseq : (now.session waiting.chat).lastSeq ≤ (next.session waiting.chat).lastSeq)
    (hlatest : (next.session waiting.chat).isCurrent waiting.ticket = true ↔
      (now.session waiting.chat).isCurrent waiting.ticket = true ∧
        ¬ Searches bot (messages ++ [message]) messages.length waiting.chat
          waiting.ticket.search.entity) :
    Pends bot (messages ++ [message]) next waiting where
  searches := h.searches.concat message
  latest := by rw [forall_not_searches_concat h.searches.lt, ← h.latest, hlatest]
  seq_le := h.seq_le.trans hseq
  loaded := by rw [hrows]; exact h.loaded
  headed := by rw [hrows, hsettings]; exact h.headed

/-- A search whose sheet is that of a waiting one passes its checks. -/
theorem Pends.exists_check (h : Pends bot messages now waiting)
    (hentity : now.entity message.chat = waiting.ticket.search.entity) {query : String}
    (hdemand : message.demand = .search query) :
    ∃ search, now.check message.chat query = .ok search := by
  refine Bot.exists_check (message.trim_ne_nil hdemand) ?_ ?_
  · rw [hentity]
    exact h.loaded
  · rw [hentity]
    exact h.headed

/-- A message that gives its chat's session a number supersedes exactly the waiting searches of the
chat on the same sheet. -/
theorem Pends.register (h : Pends bot messages now waiting) (hask : message.Asks)
    (hselected : ∀ chat, now.entity chat = bot.selected messages chat) {session : Session}
    (hseq : session.lastSeq = (now.session message.chat).lastSeq + 1)
    (hlatest : session.latest =
      ((now.session message.chat).register (now.entity message.chat)).latest) {desk : Desk}
    (hrows : desk.store.rows = now.desk.store.rows) :
    Pends bot (messages ++ [message]) (now.put message.chat session desk) waiting := by
  -- a chat has a session of its own: one of another chat is left alone
  by_cases hchat : waiting.chat = message.chat
  · refine h.concat rfl hrows ?_ ?_
    · rw [hchat, Bot.session_put_self, hseq]
      exact Nat.le_succ _
    · -- the new number is beyond that of the ticket, so the ticket stays the latest only elsewhere
      have hle := h.seq_le
      rw [hchat] at hle
      rw [searches_concat_self, hchat, Bot.session_put_self, ← hselected,
        Session.isCurrent_eq_of_latest_eq hlatest, Session.isCurrent_register hle]
      simp only [hask, true_and]
      rw [and_comm]
      exact and_congr_right fun _ => not_congr eq_comm
  · refine h.concat rfl hrows ?_ ?_
    · rw [Bot.session_put_of_ne _ _ hchat]
    · rw [searches_concat_self, Bot.session_put_of_ne _ _ hchat]
      simp [Ne.symm hchat]

/-- A waiting search still waits after a message, however that was received. -/
theorem Pends.receive (h : Pends bot messages now waiting)
    (hselected : ∀ chat, now.entity chat = bot.selected messages chat) {result : Pending × Bot}
    (hreceives : now.Receives message result) :
    Pends bot (messages ++ [message]) result.2 waiting := by
  cases hreceives with
  | command reply next hask hsettings hrows hsession =>
    refine h.concat hsettings hrows (by rw [hsession]) ?_
    rw [hsession, searches_concat_self]
    simp [hask]
  | refused query failure hdemand hcheck =>
    refine h.concat rfl rfl (by rw [Bot.session_put_same]) ?_
    rw [Bot.session_put_same, searches_concat_self]
    refine (and_iff_left ?_).symm
    -- a search on the same sheet would not have been refused
    rintro ⟨-, hchat, hentity⟩
    rw [← hchat, ← hselected] at hentity
    obtain ⟨search, hpasses⟩ := h.exists_check hentity hdemand
    rw [hcheck] at hpasses
    cases hpasses
  | ended query search result desk hdemand hcheck hrows =>
    refine h.register ⟨query, hdemand⟩ hselected rfl ?_ hrows
    rw [Bot.entity_of_check hcheck]
  | waits query ticket desk hdemand hcheck hseq hrows =>
    refine h.register ⟨query, hdemand⟩ hselected rfl ?_ hrows
    rw [Bot.entity_of_check hcheck]
    rfl

/-- A search that begins to wait is the latest of its chat on its sheet. -/
theorem Pends.begin (hselected : ∀ chat, now.entity chat = bot.selected messages chat)
    {query : String} {ticket : Ticket} {desk : Desk} (hdemand : message.demand = .search query)
    (hcheck : now.check message.chat query = .ok ticket.search)
    (hseq : ticket.seq = (now.session message.chat).lastSeq + 1)
    (hrows : desk.store.rows = now.desk.store.rows) :
    Pends bot (messages ++ [message])
      (now.put message.chat
        (((now.session message.chat).register ticket.search.entity).awaiting ticket) desk)
      ⟨messages.length, message.chat, ticket⟩ where
  searches := by
    rw [searches_concat_self, Bot.entity_of_check hcheck, hselected]
    exact ⟨⟨query, hdemand⟩, rfl, rfl⟩
  latest := by
    have hlatest : (((now.session message.chat).register ticket.search.entity).awaiting
        ticket).isCurrent ticket = true := by
      simp [Session.isCurrent, Session.awaiting, Session.register, hseq]
    rw [Bot.session_put_self]
    -- the message is the last one so far, so that none can supersede it
    refine iff_of_true hlatest fun newer hlt hnewer => ?_
    have hle := hnewer.lt
    rw [List.length_append, List.length_singleton] at hle
    exact absurd hlt (Nat.not_lt.mpr (Nat.le_of_lt_succ hle))
  seq_le := by
    rw [Bot.session_put_self, hseq]
    rfl
  loaded := by
    rw [Bot.desk_put, hrows]
    exact (Search.check_eq_ok_iff.mp hcheck).2.2.loaded
  headed := by
    rw [Bot.desk_put, hrows]
    exact (Search.check_eq_ok_iff.mp hcheck).2.2.headed

/-- The end of a search leaves the others waiting. -/
theorem Pends.settle (h : Pends bot messages now waiting) {chat : Int} {ticket : Ticket}
    (hsettles : now.Settles next chat ticket) : Pends bot messages next waiting where
  searches := h.searches
  latest := by
    rw [← h.latest, hsettles.session]
    split
    · next hchat => rw [hchat, Session.settled_isCurrent]
    · rfl
  seq_le := by
    have hle := h.seq_le
    rw [hsettles.session]
    split
    · next hchat => rwa [Session.settled_lastSeq, ← hchat]
    · exact hle
  loaded := by rw [hsettles.rows]; exact h.loaded
  headed := by rw [hsettles.rows, hsettles.settings]; exact h.headed

/-! ## Answers -/

/-- What is known of an answer. -/
structure Fits (bot : Bot) (messages : List Message) (answer : Answer) : Prop where
  seen_le : answer.seen ≤ messages.length
  /-- There is no reply if and only if the message had been superseded by then. -/
  silent : answer.reply = none ↔
    ∃ newer < answer.seen, Supersedes bot messages newer answer.number
  /-- The reply to a failed search says what is wrong with the input, or is one of two texts. -/
  discreet : ∀ failure, answer.failure = some failure →
    (∃ text, failure = .input text ∧ answer.reply = some text) ∨
      answer.reply = some Reply.unresolved ∨ answer.reply = some Reply.snag

/-- An answer stays true when another message comes in. -/
theorem Fits.concat {answer : Answer} (h : Fits bot messages answer) (message : Message) :
    Fits bot (messages ++ [message]) answer where
  seen_le := by
    rw [List.length_append]
    exact h.seen_le.trans (Nat.le_add_right _ _)
  silent := by
    rw [h.silent]
    refine exists_congr fun newer => and_congr_right fun hlt => ?_
    exact (supersedes_concat_of_lt message (hlt.trans_le h.seen_le)).symm
  discreet := h.discreet

theorem discreet_of_failure {limit : Int} {failure : Failure} {reply : Option String}
    (h : reply = some (Reply.search limit (.error failure))) :
    (∃ text, failure = .input text ∧ reply = some text) ∨
      reply = some Reply.unresolved ∨ reply = some Reply.snag := by
  subst h
  cases failure with
  | input text => exact .inl ⟨text, rfl, rfl⟩
  | unresolved reason first retry => exact .inr (.inl rfl)
  | malformed issues => exact .inr (.inr rfl)
  | service fault => exact .inr (.inr rfl)
  | pattern fault => exact .inr (.inr rfl)

/-- The answer to a message that is replied to as soon as it comes in. -/
theorem fits_at_once (bot : Bot) (messages : List Message) (message : Message) {limit : Int}
    {reply : String} {failure : Option Failure}
    (hfailure : ∀ found, failure = some found → reply = Reply.search limit (.error found)) :
    Fits bot (messages ++ [message])
      ⟨messages.length, messages.length + 1, some reply, failure⟩ where
  seen_le := by rw [List.length_append, List.length_singleton]
  silent := by
    refine iff_of_false (Option.some_ne_none reply) ?_
    rintro ⟨newer, hseen, hnewer, -⟩
    exact absurd hnewer (Nat.not_lt.mpr (Nat.le_of_lt_succ hseen))
  discreet found hfound := discreet_of_failure (congrArg some (hfailure found hfound))

/-- The answer to a search that has waited. -/
theorem Pends.fits (h : Pends bot messages now waiting) (result : Except Failure Resolved) :
    Fits bot messages
      ⟨waiting.number, messages.length, (now.settle waiting.chat waiting.ticket result).1,
        now.lateFailure? waiting.chat waiting.ticket result⟩ where
  seen_le := le_rfl
  silent := by
    rw [Bot.settle_eq_none_iff, ← Bool.not_eq_true, h.latest]
    constructor
    · intro hsome
      simp only [not_forall, not_not] at hsome
      obtain ⟨newer, hlt, hnewer⟩ := hsome
      exact ⟨newer, hnewer.lt, hlt, _, _, h.searches, hnewer⟩
    · rintro ⟨newer, -, hlt, chat, entity, holder, hnewer⟩ hnone
      obtain ⟨rfl, rfl⟩ := h.searches.unique holder
      exact hnone newer hlt hnewer
  discreet failure hfailure := discreet_of_failure (Bot.settle_of_lateFailure? hfailure)

/-! ## Steps and runs -/

/-- What the messages so far say about an exchange that began with a bot. -/
structure Sound (bot : Bot) (messages : List Message) (exchange : Exchange) : Prop where
  count : exchange.count = messages.length
  selected : ∀ chat, exchange.bot.entity chat = bot.selected messages chat
  /-- Every message either has one answer or waits for it. -/
  numbers : (exchange.answers.map Answer.number ++ exchange.waiting.map Waiting.number).Perm
    (List.range messages.length)
  pends : ∀ waiting ∈ exchange.waiting, Pends bot messages exchange.bot waiting
  fits : ∀ answer ∈ exchange.answers, Fits bot messages answer

theorem sound_opening (bot : Bot) : Sound bot [] (opening bot) where
  count := rfl
  selected _ := rfl
  numbers := .refl _
  pends := nofun
  fits := nofun

variable {exchange : Exchange}

theorem range_concat (messages : List Message) (message : Message) :
    List.range (messages ++ [message]).length =
      List.range messages.length ++ [messages.length] := by
  rw [List.length_append, List.length_singleton, List.range_succ]

/-- The message is replied to as soon as it comes in. -/
theorem Sound.reply (h : Sound bot messages exchange)
    (hselected : ∀ chat, next.entity chat = bot.selected (messages ++ [message]) chat)
    (hpends : ∀ waiting ∈ exchange.waiting, Pends bot (messages ++ [message]) next waiting)
    (limit : Int) {reply : String} {failure : Option Failure}
    (hfailure : ∀ found, failure = some found → reply = Reply.search limit (.error found)) :
    Sound bot (messages ++ [message])
      ⟨next, exchange.count + 1, exchange.waiting,
        ⟨exchange.count, exchange.count + 1, some reply, failure⟩ :: exchange.answers⟩ where
  count := by rw [h.count, List.length_append, List.length_singleton]
  selected := hselected
  numbers := by
    -- the new number is the next one, and has just been answered
    rw [range_concat, h.count]
    exact (h.numbers.cons _).trans (List.perm_append_singleton _ _).symm
  pends := hpends
  fits := by
    rw [h.count]
    refine List.forall_mem_cons.mpr ⟨fits_at_once bot messages message hfailure, ?_⟩
    exact fun answer hanswer => (h.fits answer hanswer).concat message

/-- The message is a search, and begins to wait. -/
theorem Sound.wait (h : Sound bot messages exchange)
    (hselected : ∀ chat, next.entity chat = bot.selected (messages ++ [message]) chat)
    (hpends : ∀ waiting ∈ exchange.waiting, Pends bot (messages ++ [message]) next waiting)
    {chat : Int} {ticket : Ticket}
    (hbegin : Pends bot (messages ++ [message]) next ⟨messages.length, chat, ticket⟩) :
    Sound bot (messages ++ [message])
      ⟨next, exchange.count + 1, exchange.waiting ++ [⟨exchange.count, chat, ticket⟩],
        exchange.answers⟩ where
  count := by rw [h.count, List.length_append, List.length_singleton]
  selected := hselected
  numbers := by
    rw [range_concat, h.count, List.map_append, ← List.append_assoc]
    exact h.numbers.append_right _
  pends := by
    rw [h.count]
    refine List.forall_mem_append.mpr ⟨hpends, ?_⟩
    exact List.forall_mem_singleton.mpr hbegin
  fits := fun answer hanswer => (h.fits answer hanswer).concat message

theorem Sound.receive (h : Sound bot messages exchange) (transport : Transport σ)
    (message : Message) (s : σ) :
    Sound bot (messages ++ [message]) (exchange.receive transport message s) := by
  have hreceives := exchange.bot.receives transport message s
  have hselected : ∀ chat, (exchange.bot.receive transport message s).2.1.entity chat =
      bot.selected (messages ++ [message]) chat := by
    intro chat
    rw [Bot.entity_receive, Bot.selected_concat, h.selected]
  have hpends : ∀ waiting ∈ exchange.waiting,
      Pends bot (messages ++ [message]) (exchange.bot.receive transport message s).2.1 waiting :=
    fun waiting hwaiting => (h.pends waiting hwaiting).receive h.selected hreceives
  have hfailure : ∀ failure, exchange.bot.earlyFailure? message = some failure →
      (exchange.bot.receive transport message s).1 =
        .answered (Reply.search exchange.bot.settings.previewRows (.error failure)) :=
    fun failure hfound => Bot.receive_of_earlyFailure? hfound s
  unfold Exchange.receive
  -- from here on only the facts about what was received count, not how it came about
  generalize exchange.bot.receive transport message s = received
    at hreceives hselected hpends hfailure ⊢
  obtain ⟨pending, next, rest⟩ := received
  cases pending with
  | answered reply =>
    exact h.reply hselected hpends _ fun failure hfound =>
      Pending.answered.inj (hfailure failure hfound)
  | waiting chat ticket =>
    cases hreceives with
    | waits query ticket desk hdemand hcheck hseq hrows =>
      exact h.wait hselected hpends (Pends.begin h.selected hdemand hcheck hseq hrows)

theorem Sound.resolve (h : Sound bot messages exchange) (place : Nat)
    (result : Except Failure Resolved) :
    Sound bot messages (exchange.resolve place result) := by
  unfold Exchange.resolve
  split
  · exact h
  · next number chat ticket hplace =>
    have hsettles := exchange.bot.settles chat ticket result
    have hpends := h.pends _ (List.mem_of_getElem? hplace)
    refine ⟨h.count, fun other => (hsettles.entity other).trans (h.selected other), ?_, ?_, ?_⟩
    · -- the number moves from the waiting ones to the answered ones
      obtain ⟨hlt, hget⟩ := List.getElem?_eq_some_iff.mp hplace
      have hperm := (List.getElem_cons_eraseIdx_perm hlt).map Waiting.number
      rw [hget] at hperm
      exact List.perm_middle.symm.trans ((hperm.append_left _).trans h.numbers)
    · exact fun waiting hwaiting =>
        (h.pends waiting (List.mem_of_mem_eraseIdx hwaiting)).settle hsettles
    · rw [h.count]
      exact List.forall_mem_cons.mpr ⟨hpends.fits result, h.fits⟩

/-- One event keeps an exchange sound. -/
theorem Sound.step (h : Sound bot messages exchange) (transport : Transport σ) (event : Event σ) :
    Sound bot (messages ++ event.message?.toList) (exchange.step transport event) := by
  cases event with
  | incoming message s => exact h.receive transport message s
  | resolved place result =>
    rw [Event.message?, Option.toList_none, List.append_nil]
    exact h.resolve place result

/-- In every run an exchange stays sound, with the messages of the run after those before it. -/
theorem Sound.run (h : Sound bot messages exchange) (transport : Transport σ)
    (events : List (Event σ)) :
    Sound bot (messages ++ events.filterMap Event.message?) (exchange.run transport events) := by
  -- event by event, with the messages so far growing at their end
  induction events generalizing messages exchange with
  | nil => rwa [List.filterMap_nil, List.append_nil, run_nil]
  | cons event events ih =>
    have hmessages : (event :: events).filterMap Event.message? =
        event.message?.toList ++ events.filterMap Event.message? := by
      cases event <;> rfl
    rw [run_cons, hmessages, ← List.append_assoc]
    exact ih (h.step transport event)

end Exchange

end SheetQuery.Chat
