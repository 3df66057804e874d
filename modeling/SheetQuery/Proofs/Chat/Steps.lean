import SheetQuery.Chat.Bot
import SheetQuery.Proofs.Search.Repeat

/-!
# Steps of the bot

A message of a chat is received at once. If it is a search that has to be resolved, it is settled in a
step of its own, when its resolution has come to an end. Neither step does anything to the session or
the sheet of another chat, and neither replaces rows.

* `Bot.settle`: the end of a waiting search, whatever its resolution came to;
* `Bot.exists_settle`: answering a waiting search is to resolve and to settle it;
* `Bot.Receives`: all that receiving a message can do;
* `Bot.entity_receive`: the sheets that chats have chosen after a message.
-/

namespace SheetQuery

/-! ## Sessions -/

namespace Session

variable {session other : Session} {ticket : Ticket}

theorem isCurrent_eq_of_latest_eq (h : session.latest = other.latest) :
    session.isCurrent ticket = other.isCurrent ticket := by
  rw [isCurrent, isCurrent, h]

/-- A new search leaves an earlier one the latest if they are on different sheets. -/
theorem isCurrent_register {entity : Entity} (h : ticket.seq ≤ session.lastSeq) :
    (session.register entity).isCurrent ticket = true ↔
      ticket.search.entity ≠ entity ∧ session.isCurrent ticket = true := by
  by_cases hentity : ticket.search.entity = entity
  · have hne : session.lastSeq + 1 ≠ ticket.seq := by omega
    simp [isCurrent, register, hentity, hne]
  · simp [isCurrent, register, hentity]

end Session

namespace Chat

/-! ## Messages -/

/-- The sheet that a message chooses for a chat, if it does. -/
def Message.choice? (message : Message) (chat : Int) : Option Entity :=
  if message.chat = chat then
    match message.demand with
    | .use entity => entity
    | _ => none
  else none

/-- Is a message a search? -/
def Message.Asks (message : Message) : Prop := ∃ query, message.demand = .search query

/-- A search has something to look for. -/
theorem Message.trim_ne_nil (message : Message) {query : String}
    (h : message.demand = .search query) : Text.trim query.toList ≠ [] := by
  unfold Message.demand Demand.ofText at h
  split at h
  · cases h
  · next cs hslash =>
    simp only [Demand.ofCommand] at h
    split at h <;> cases h
  · next hempty hslash =>
    obtain rfl := Demand.search.inj h
    exact hempty

namespace Bot

/-! ## Values by chat -/

section update

variable {α : Type} {chat other : Int}

@[simp] theorem lookup_update_self (chat : Int) (value : α) (values : List (Int × α)) :
    (update chat value values).lookup chat = some value := by
  simp [update]

theorem lookup_filter_ne (values : List (Int × α)) (h : other ≠ chat) :
    (values.filter fun entry => entry.1 ≠ chat).lookup other = values.lookup other := by
  induction values with
  | nil => rfl
  | cons entry values ih =>
    obtain ⟨key, value⟩ := entry
    by_cases hkey : key = chat
    · have hother : (other == key) = false := beq_false_of_ne (hkey ▸ h)
      rw [List.filter_cons_of_neg (by simpa using hkey), List.lookup_cons, hother]
      exact ih
    · rw [List.filter_cons_of_pos (by simpa using hkey), List.lookup_cons, List.lookup_cons, ih]

@[simp] theorem lookup_update_of_ne (value : α) (values : List (Int × α)) (h : other ≠ chat) :
    (update chat value values).lookup other = values.lookup other := by
  rw [update, List.lookup_cons, beq_false_of_ne h]
  exact lookup_filter_ne values h

end update

variable {bot : Bot} {chat other : Int}

@[simp] theorem desk_put (bot : Bot) (chat : Int) (session : Session) (desk : Desk) :
    (bot.put chat session desk).desk = desk := rfl

@[simp] theorem entity_put (bot : Bot) (chat : Int) (session : Session) (desk : Desk) (other : Int) :
    (bot.put chat session desk).entity other = bot.entity other := rfl

@[simp] theorem session_put_self (bot : Bot) (chat : Int) (session : Session) (desk : Desk) :
    (bot.put chat session desk).session chat = session := by
  simp [Bot.session, put]

@[simp] theorem session_put_of_ne (session : Session) (desk : Desk) (h : other ≠ chat) :
    (bot.put chat session desk).session other = bot.session other := by
  simp [Bot.session, put, h]

/-- Putting the session of a chat back changes no session. -/
@[simp] theorem session_put_same (bot : Bot) (chat : Int) (desk : Desk) (other : Int) :
    (bot.put chat (bot.session chat) desk).session other = bot.session other := by
  by_cases h : other = chat
  · rw [h, session_put_self]
  · rw [session_put_of_ne _ _ h]

@[simp] theorem entity_choose_self (bot : Bot) (chat : Int) (entity : Entity) :
    (bot.choose chat entity).entity chat = entity := by
  simp [Bot.entity, choose]

@[simp] theorem entity_choose_of_ne (entity : Entity) (h : other ≠ chat) :
    (bot.choose chat entity).entity other = bot.entity other := by
  simp [Bot.entity, choose, h]

/-! ## The end of a waiting search -/

/-- Ends a waiting search with what its resolution came to: its reply, or `none` if a later search
has superseded it. -/
def settle (bot : Bot) (chat : Int) (ticket : Ticket) (result : Except Failure Resolved) :
    Option String × Bot :=
  let (outcome, session, desk) := (bot.session chat).finish bot.desk ticket (some result)
  (outcome.map (Reply.search bot.settings.previewRows), bot.put chat session desk)

/-- What a waiting search fails with when it ends, if it fails. -/
def lateFailure? (bot : Bot) (chat : Int) (ticket : Ticket) (result : Except Failure Resolved) :
    Option Failure :=
  match ((bot.session chat).finish bot.desk ticket (some result)).1 with
  | some (.error failure) => some failure
  | _ => none

theorem settle_of_lateFailure? {ticket : Ticket} {result : Except Failure Resolved}
    {failure : Failure} (h : bot.lateFailure? chat ticket result = some failure) :
    (bot.settle chat ticket result).1 =
      some (Reply.search bot.settings.previewRows (.error failure)) := by
  unfold lateFailure? at h
  split at h
  · next found heq =>
    obtain rfl := Option.some.inj h
    simp [settle, heq]
  · cases h

/-- A superseded search ends alike whether its resolution was cancelled or came to an end. -/
theorem finish_of_not_isCurrent {session : Session} {ticket : Ticket}
    (h : session.isCurrent ticket = false) (desk : Desk) (ending : Option (Except Failure Resolved)) :
    session.finish desk ticket ending = (none, session.settled ticket, desk) := by
  have hfinishes := session.finishes desk ticket ending
  generalize session.finish desk ticket ending = result at hfinishes ⊢
  cases hfinishes with
  | discarded => rfl
  | failed failure hcurrent => simp [h] at hcurrent
  | kept outcome hcurrent => simp [h] at hcurrent
  | found resolved outcome hcurrent => simp [h] at hcurrent

/-- Answering a waiting search is to settle it with some result. -/
theorem exists_settle {σ : Type} (bot : Bot) (transport : Transport σ) (chat : Int) (ticket : Ticket)
    (s : σ) : ∃ result s', bot.answer transport (.waiting chat ticket) s =
      ((bot.settle chat ticket result).1, (bot.settle chat ticket result).2, s') := by
  cases hcurrent : (bot.session chat).isCurrent ticket with
  | true =>
    refine ⟨(Session.resolve (bot.service? transport) ticket s).1,
      (Session.resolve (bot.service? transport) ticket s).2, ?_⟩
    simp [answer, settle, Session.complete, hcurrent]
  | false =>
    refine ⟨(Session.resolve (bot.service? transport) ticket s).1, s, ?_⟩
    simp [answer, settle, Session.complete, hcurrent, finish_of_not_isCurrent hcurrent]

/-- What settling a search leaves as it is. -/
structure Settles (bot next : Bot) (chat : Int) (ticket : Ticket) : Prop where
  settings : next.settings = bot.settings
  rows : next.desk.store.rows = bot.desk.store.rows
  entity : ∀ other, next.entity other = bot.entity other
  session : ∀ other, next.session other =
    if other = chat then (bot.session chat).settled ticket else bot.session other

theorem settles (bot : Bot) (chat : Int) (ticket : Ticket) (result : Except Failure Resolved) :
    Settles bot (bot.settle chat ticket result).2 chat ticket := by
  have hfinishes := (bot.session chat).finishes bot.desk ticket (some result)
  unfold settle
  generalize (bot.session chat).finish bot.desk ticket (some result) = ending at hfinishes ⊢
  have hsession : ∀ desk other, (bot.put chat ((bot.session chat).settled ticket) desk).session other =
      if other = chat then (bot.session chat).settled ticket else bot.session other := by
    intro desk other
    by_cases h : other = chat
    · rw [h, session_put_self, if_pos rfl]
    · rw [session_put_of_ne _ _ h, if_neg h]
  cases hfinishes <;> exact ⟨rfl, rfl, fun _ => rfl, hsession _⟩

/-- A search stays without a reply if it is no longer the latest of its chat on its sheet. -/
theorem settle_eq_none_iff (bot : Bot) (chat : Int) (ticket : Ticket)
    (result : Except Failure Resolved) :
    (bot.settle chat ticket result).1 = none ↔ (bot.session chat).isCurrent ticket = false := by
  have hfinishes := (bot.session chat).finishes bot.desk ticket (some result)
  unfold settle
  generalize (bot.session chat).finish bot.desk ticket (some result) = ending at hfinishes ⊢
  cases hfinishes with
  | discarded hcause => simpa using hcause
  | failed failure hcurrent => simp [hcurrent]
  | kept outcome hcurrent => simp [hcurrent]
  | found resolved outcome hcurrent => simp [hcurrent]

/-! ## Received messages -/

/-- The check of a search of a chat. -/
def check (bot : Bot) (chat : Int) (query : String) : Except Failure Search :=
  Search.check bot.settings.samples bot.desk.store (.text (bot.entity chat).name) query

theorem entity_of_check {query : String} {search : Search}
    (h : bot.check chat query = .ok search) : search.entity = bot.entity chat := by
  have hentity := (Search.check_eq_ok_iff.mp h).1
  rw [Entity.require, Entity.ofCell?, Entity.ofName?_name] at hentity
  exact (Except.ok.inj hentity).symm

/-- A search of a chat passes its checks if the sheet of the chat has rows and columns. -/
theorem exists_check {query : String} (hquery : Text.trim query.toList ≠ [])
    (hloaded : bot.desk.store.rows (bot.entity chat) ≠ [])
    (hheaded : Schema.infer (bot.desk.store.rows (bot.entity chat)) bot.settings.samples ≠ []) :
    ∃ search, bot.check chat query = .ok search := by
  let rows := bot.desk.store.rows (bot.entity chat)
  let search : Search :=
    ⟨bot.entity chat, Text.trim query.toList, rows, Schema.infer rows bot.settings.samples⟩
  have hover : search.IsOver bot.settings.samples (bot.desk.store.rows search.entity) :=
    ⟨rfl, rfl, by rwa [Text.trim_trim], hloaded, hheaded⟩
  refine ⟨search, Search.check_eq_ok_iff.mpr ⟨?_, rfl, hover⟩⟩
  rw [Entity.require, Entity.ofCell?, Entity.ofName?_name]

/-- What the search of a message fails with when it is received, if it is one and fails at once. -/
def earlyFailure? (bot : Bot) (message : Message) : Option Failure :=
  match message.demand with
  | .search query =>
    match ((bot.session message.chat).start bot.settings.samples bot.desk
      (.text (bot.entity message.chat).name) query).1 with
    | .ended (.error failure) => some failure
    | _ => none
  | _ => none

/-- All that receiving a message can do to the searches of chats. -/
inductive Receives (bot : Bot) (message : Message) : Pending × Bot → Prop where
  /-- The message is no search, and is replied to at once. -/
  | command (reply : String) (next : Bot) (hask : ¬ message.Asks)
      (hsettings : next.settings = bot.settings)
      (hrows : next.desk.store.rows = bot.desk.store.rows)
      (hsession : ∀ chat, next.session chat = bot.session chat) :
      Receives bot message (.answered reply, next)
  /-- The search is refused. -/
  | refused (query : String) (failure : Failure) (hdemand : message.demand = .search query)
      (hcheck : bot.check message.chat query = .error failure) :
      Receives bot message (.answered (Reply.search bot.settings.previewRows (.error failure)),
        bot.put message.chat (bot.session message.chat) bot.desk)
  /-- The search comes to its end at once. -/
  | ended (query : String) (search : Search) (result : Except Failure Outcome) (desk : Desk)
      (hdemand : message.demand = .search query)
      (hcheck : bot.check message.chat query = .ok search)
      (hrows : desk.store.rows = bot.desk.store.rows) :
      Receives bot message (.answered (Reply.search bot.settings.previewRows result),
        bot.put message.chat ((bot.session message.chat).register search.entity) desk)
  /-- The search has to be resolved. -/
  | waits (query : String) (ticket : Ticket) (desk : Desk)
      (hdemand : message.demand = .search query)
      (hcheck : bot.check message.chat query = .ok ticket.search)
      (hseq : ticket.seq = (bot.session message.chat).lastSeq + 1)
      (hrows : desk.store.rows = bot.desk.store.rows) :
      Receives bot message (.waiting message.chat ticket,
        bot.put message.chat
          (((bot.session message.chat).register ticket.search.entity).awaiting ticket) desk)

variable {σ : Type}

theorem receives (bot : Bot) (transport : Transport σ) (message : Message) (s : σ) :
    Receives bot message
      ((bot.receive transport message s).1, (bot.receive transport message s).2.1) := by
  unfold receive
  split
  · next hdemand => exact .command _ _ (by simp [Message.Asks, hdemand]) rfl rfl fun _ => rfl
  · next hdemand => exact .command _ _ (by simp [Message.Asks, hdemand]) rfl rfl fun _ => rfl
  · next entity hdemand => exact .command _ _ (by simp [Message.Asks, hdemand]) rfl rfl fun _ => rfl
  · next hdemand =>
    exact .command _ _ (by simp [Message.Asks, hdemand]) rfl rfl (session_put_same bot _ _)
  · next hdemand => exact .command _ _ (by simp [Message.Asks, hdemand]) rfl rfl fun _ => rfl
  · next query hdemand =>
    have hstarts := (bot.session message.chat).starts bot.settings.samples bot.desk
      (.text (bot.entity message.chat).name) query
    unfold startSearch
    -- a search is what the first half of it can come to, and nothing else at the bot changes
    generalize (bot.session message.chat).start bot.settings.samples bot.desk
      (.text (bot.entity message.chat).name) query = started at hstarts ⊢
    cases hstarts with
    | refused failure hcheck => exact .refused query failure hdemand hcheck
    | replayed search resolved rows hcheck => exact .ended query search _ _ hdemand hcheck rfl
    | failed search failure hcheck => exact .ended query search _ _ hdemand hcheck rfl
    | waits search preview hcheck =>
      refine .waits query ⟨search, _, preview⟩ _ hdemand hcheck rfl ?_
      cases preview <;> rfl

theorem receive_of_earlyFailure? {transport : Transport σ} {message : Message} {failure : Failure}
    (h : bot.earlyFailure? message = some failure) (s : σ) :
    (bot.receive transport message s).1 =
      .answered (Reply.search bot.settings.previewRows (.error failure)) := by
  unfold earlyFailure? at h
  split at h
  · next query hdemand =>
    split at h
    · next found heq =>
      obtain rfl := Option.some.inj h
      simp [receive, hdemand, startSearch, heq]
    · cases h
  · cases h

/-- A message changes the sheet of its own chat only, and only to one that it chooses. -/
theorem entity_receive (bot : Bot) (transport : Transport σ) (message : Message) (s : σ)
    (chat : Int) : (bot.receive transport message s).2.1.entity chat =
      (message.choice? chat).getD (bot.entity chat) := by
  unfold receive Message.choice?
  split
  · next hdemand => simp [hdemand]
  · next hdemand => simp [hdemand]
  · next entity hdemand =>
    by_cases hchat : message.chat = chat
    · simp [hdemand, hchat]
    · rw [if_neg hchat]
      exact entity_choose_of_ne entity (Ne.symm hchat)
  · next hdemand => simp [hdemand, clear]
  · next hdemand => simp [hdemand]
  · next query hdemand => simp [hdemand, startSearch]

end Bot

end Chat

end SheetQuery
