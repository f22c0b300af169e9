import SnippetStudio.Bytes.Base64
import SnippetStudio.Settings

/-!
# Models

Who can be asked for a snippet (`Provider`), what goes into a request, and what comes back.  A reply is a list
of blocks; a block of text may come without its text.
-/

namespace SnippetStudio

inductive Provider where
  | gemini
  | anthropic
deriving Repr, DecidableEq

namespace Provider

def label : Provider → String
  | gemini => "gemini"
  | anthropic => "anthropic"

def ofLabel? (label : String) : Option Provider := [gemini, anthropic].find? fun p => p.label == label

/-- the credential among the settings -/
def key (s : Settings) : Provider → String
  | gemini => s.geminiApiKey
  | anthropic => s.anthropicApiKey

/-- the model among the settings -/
def model (s : Settings) : Provider → String
  | gemini => s.geminiModel
  | anthropic => s.claudeModel

def missingKey : Provider → Fault
  | gemini => .runtime "GEMINI_API_KEY not configured"
  | anthropic => .runtime "ANTHROPIC_API_KEY not configured"

end Provider

/-- bytes of a media type -/
structure Attachment where
  mediaType : String
  bytes : Bytes
deriving Repr, DecidableEq

namespace Chat

structure Request where
  provider : Provider
  key : String
  model : String
  /-- shown before the prompt -/
  image : Option Attachment
  prompt : String
deriving Repr, DecidableEq

inductive Block where
  | text (text : Option String)
  /-- anything but text -/
  | other
deriving Repr, DecidableEq

abbrev Reply := List Block

/-- the texts of a reply, null where a block has none -/
def Block.texts (blocks : Reply) : List (Option String) :=
  blocks.filterMap fun
    | .text t => some t
    | .other => none

/-- texts put together, which must all be there -/
def joined (texts : List (Option String)) : Except Fault String :=
  match texts.findIdx? (·.isNone) with
  | some i =>
    .error ⟨.type, "sequence item " ++ toString i ++ ": expected str instance, NoneType found"⟩
  | none => .ok (String.join (texts.map (·.getD "")))

/-- the text of a reply: of the one provider it is the first block's, of the other all blocks' -/
def replyText : Provider → Reply → Except Fault String
  | .gemini, blocks => .ok (((Block.texts blocks).head?.getD none).getD "")
  | .anthropic, blocks => joined (Block.texts blocks)

/-- the temperature asked of the first provider -/
def temperature : Float := 0.2

/-- the most tokens asked of the second provider -/
def maxTokens : Int := 8192

end Chat

end SnippetStudio
