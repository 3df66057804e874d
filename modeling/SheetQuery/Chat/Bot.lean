import SheetQuery.Chat.Listing
import SheetQuery.Chat.Message
import SheetQuery.Search.Session
import SheetQuery.Settings.Basic

/-!
# The chat bot

The bot answers messages of many chats. All chats share the rows and the cache; each has a session
and a chosen sheet of its own. A message gets one reply, except that a search gets none if a later
search of the same chat on the same sheet has superseded it.

* `receive`: a message up to its reply, or up to the resolution that it waits for;
* `answer`: the reply to a message that has been received;
* `converse`: the replies to messages that come in at once.
-/

namespace SheetQuery.Chat

/-! ## Replies -/

namespace Reply

def help : String := "\n".intercalate [
  "Ask in plain English about the active sheet, e.g. \"skills include coding\" or "
    ++ "\"duration > 2 and phase 3\".",
  "/use clients|workers|tasks - switch sheet",
  "/clear - show all rows again",
  "/health - check the AI backend"]

/-- The reply to a search that fails for a reason that is kept from the chat. -/
def snag : String := "Hm, I hit a snag. Try rephrasing the query."

/-- The reply to a query that no means led to a filter for. -/
def unresolved : String := "I couldn't shape a filter from that. Try something simpler."

def usage : String := "Usage: /use clients|workers|tasks"

def chosen (entity : Entity) (count : Nat) : String :=
  "Now searching " ++ entity.name ++ " (" ++ toString count ++ " rows)."

def cleared (entity : Entity) : String := "Cleared the " ++ entity.name ++ " filter."

def disabled : String := "AI tier is disabled."

/-- The reply about the service. -/
def health (model : String) : Except Service.Fault Health → String
  | .ok health =>
    "AI backend " ++ (if health.ok then "ok" else "unavailable") ++ " (model=" ++ model
      ++ ", installed=" ++ (if health.hasModel then "True" else "False") ++ ")"
  | .error _ => snag

/-- The reply to a search. -/
def search (limit : Int) : Except Failure Outcome → String
  | .ok outcome =>
    Listing.text outcome.entity outcome.rows outcome.origin.name limit outcome.softened
  | .error (.input message) => message
  | .error (.unresolved ..) => unresolved
  | .error _ => snag

end Reply

/-! ## The bot -/

/-- The state of the bot. -/
structure Bot where
  settings : Settings
  desk : Desk
  sessions : List (Int × Session)
  entities : List (Int × Entity)

/-- What becomes of a message when it is received. -/
inductive Pending where
  | answered (reply : String)
  | waiting (chat : Int) (ticket : Ticket)

namespace Bot

/-- The bot before its first message. -/
def create (settings : Settings) (store : Store) : Bot :=
  ⟨settings, ⟨store, .empty settings.cacheEntries⟩, [], []⟩

/-- The commands that chats offer, with what they do. -/
def menu : List (String × String) := [
  ("help", "How to ask"),
  ("use", "Switch sheet: clients, workers or tasks"),
  ("clear", "Show all rows again"),
  ("health", "Check the AI backend")]

/-- How the service is reached, if it is switched on. -/
def endpoint? (bot : Bot) : Option Endpoint :=
  if bot.settings.serviceEnabled then some bot.settings.endpoint else none

/-- One line on the sheets and the service. -/
def summary (bot : Bot) : String :=
  let counts := Entity.all.map fun entity =>
    entity.name ++ "=" ++ toString (bot.desk.store.rows entity).length
  "starting " ++ " ".intercalate counts ++ match bot.endpoint? with
    | none => " ai=disabled"
    | some endpoint => " ai=enabled model=" ++ endpoint.model ++ " base_url=" ++ endpoint.baseUrl

/-- The session of a chat. -/
def session (bot : Bot) (chat : Int) : Session := (bot.sessions.lookup chat).getD .new

/-- The sheet that a chat has chosen. -/
def entity (bot : Bot) (chat : Int) : Entity := (bot.entities.lookup chat).getD .tasks

/-- A family of values by chat with one of them replaced. -/
def update {α : Type} (chat : Int) (value : α) (values : List (Int × α)) : List (Int × α) :=
  (chat, value) :: values.filter fun entry => entry.1 ≠ chat

/-- The bot after a step of a search. -/
def put (bot : Bot) (chat : Int) (session : Session) (desk : Desk) : Bot :=
  { bot with desk := desk, sessions := update chat session bot.sessions }

/-- The bot after a chat has chosen a sheet. -/
def choose (bot : Bot) (chat : Int) (entity : Entity) : Bot :=
  { bot with entities := update chat entity bot.entities }

/-- The bot after a chat has cleared its view. -/
def clear (bot : Bot) (chat : Int) : Bot :=
  bot.put chat (bot.session chat) (Session.clear bot.desk (bot.entity chat))

variable {σ : Type}

/-- The service that searches may consult. -/
def service? (bot : Bot) (transport : Transport σ) : Option (Service σ) :=
  bot.endpoint?.map fun endpoint =>
    Client.service transport endpoint (.ofSeconds endpoint.timeout)

/-- Checks the service once, if it is switched on, so that the model is loaded before the first
query. -/
def warmUp (bot : Bot) (transport : Transport σ) (s : σ) : Except Service.Fault Unit × σ :=
  match bot.endpoint? with
  | none => (.ok (), s)
  | some endpoint =>
    let (health, s) := Client.health transport endpoint s
    (health.map fun _ => (), s)

/-- The reply to a question about the service. -/
def checkService (bot : Bot) (transport : Transport σ) (s : σ) : String × σ :=
  match bot.endpoint? with
  | none => (Reply.disabled, s)
  | some endpoint =>
    let (health, s) := Client.health transport endpoint s
    (Reply.health endpoint.model health, s)

/-- The first half of a search for a chat. -/
def startSearch (bot : Bot) (chat : Int) (query : String) : Pending × Bot :=
  let (started, session, desk) := (bot.session chat).start bot.settings.samples bot.desk
    (.text (bot.entity chat).name) query
  (match started with
    | .ended result => .answered (Reply.search bot.settings.previewRows result)
    | .waiting ticket => .waiting chat ticket, bot.put chat session desk)

/-- Receives a message. -/
def receive (bot : Bot) (transport : Transport σ) (message : Message) (s : σ) :
    Pending × Bot × σ :=
  match message.demand with
  | .help => (.answered Reply.help, bot, s)
  | .use none => (.answered Reply.usage, bot, s)
  | .use (some entity) =>
    (.answered (Reply.chosen entity (bot.desk.store.rows entity).length),
      bot.choose message.chat entity, s)
  | .clear => (.answered (Reply.cleared (bot.entity message.chat)), bot.clear message.chat, s)
  | .health =>
    let (reply, s) := bot.checkService transport s
    (.answered reply, bot, s)
  | .search query =>
    let (pending, bot) := bot.startSearch message.chat query
    (pending, bot, s)

/-- Answers a message that has been received; `none` if a later search has superseded it. -/
def answer (bot : Bot) (transport : Transport σ) (pending : Pending) (s : σ) :
    Option String × Bot × σ :=
  match pending with
  | .answered reply => (some reply, bot, s)
  | .waiting chat ticket =>
    let (result, session, desk, s) :=
      (bot.session chat).complete (bot.service? transport) bot.desk ticket s
    (result.map (Reply.search bot.settings.previewRows), bot.put chat session desk, s)

/-- Receives messages in order. -/
def receiveAll (bot : Bot) (transport : Transport σ) (s : σ) :
    List Message → List Pending × Bot × σ
  | [] => ([], bot, s)
  | message :: messages =>
    let (pending, bot, s) := bot.receive transport message s
    let (rest, bot, s) := bot.receiveAll transport s messages
    (pending :: rest, bot, s)

/-- Answers received messages in order. -/
def answerAll (bot : Bot) (transport : Transport σ) (s : σ) :
    List Pending → List (Option String) × Bot × σ
  | [] => ([], bot, s)
  | pending :: waiting =>
    let (reply, bot, s) := bot.answer transport pending s
    let (rest, bot, s) := bot.answerAll transport s waiting
    (reply :: rest, bot, s)

/-- The replies to messages that come in at once: all of them are received before any is
answered. -/
def converse (bot : Bot) (transport : Transport σ) (messages : List Message) (s : σ) :
    List (Option String) × Bot × σ :=
  let (pending, bot, s) := bot.receiveAll transport s messages
  bot.answerAll transport s pending

end Bot

end SheetQuery.Chat
