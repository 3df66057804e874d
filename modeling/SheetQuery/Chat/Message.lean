import SheetQuery.Entity
import SheetQuery.Text.Case
import SheetQuery.Text.Trim

/-!
# Chat messages

A message is a command, if its text starts with a slash, and a query otherwise. A command may be
addressed to a bot by name, after an at sign.

* `Demand.ofText`: what a text asks for;
* `Message.demand`: what a message asks for.
-/

namespace SheetQuery.Chat

/-- A message of a chat: its text or, for a picture, its caption. -/
structure Message where
  chat : Int
  text : Option String
  caption : Option String

/-- What a message asks for. -/
inductive Demand where
  | help
  /-- To search another sheet; `none` if there is none of the name given. -/
  | use (entity : Option Entity)
  | clear
  | health
  | search (query : String)
deriving DecidableEq, Repr

namespace Demand

/-- The name of a command, without the bot that it is addressed to, in lower case. -/
def commandName (word : List Char) : String :=
  String.ofList (Text.lower (Text.splitAtFirst (· == '@') word).1)

/-- The sheet that the argument of a command names. -/
def argumentEntity? (argument : List Char) : Option Entity :=
  Entity.ofName? (String.ofList (Text.lower (Text.trim argument)))

/-- What a command asks for; an unknown one, for help. -/
def ofCommand (cs : List Char) : Demand :=
  let (word, argument) := Text.splitAtFirst (· == ' ') cs
  match commandName word with
  | "/use" => .use (argumentEntity? (argument.getD []))
  | "/clear" => .clear
  | "/health" => .health
  | _ => .help

/-- What a text asks for. -/
def ofText (text : String) : Demand :=
  match Text.trim text.toList with
  | [] => .help
  | '/' :: cs => ofCommand ('/' :: cs)
  | _ => .search text

end Demand

namespace Message

/-- The text of a message. -/
def content (message : Message) : String :=
  ((message.text.filter (· ≠ "")).or message.caption).getD ""

/-- What a message asks for. -/
def demand (message : Message) : Demand := .ofText message.content

end Message

end SheetQuery.Chat
