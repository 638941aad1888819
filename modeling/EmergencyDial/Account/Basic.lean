import EmergencyDial.Flag.Basic
import EmergencyDial.Json.Record

/-! Phone accounts, and the schemes of addresses that one of them may be the default for. -/
namespace EmergencyDial
open Json

/-- What the platform calls an account by. -/
structure Handle where
  id : String
deriving DecidableEq, Repr

def Handle.codec : Codec Handle := Codec.text.via .mk id

/-- The account registered for a handle, and what it may do. -/
structure Account where
  handle : Handle
  capabilities : Capabilities := .empty
deriving DecidableEq, Repr

namespace Account

def canPlaceEmergencyCalls (a : Account) : Bool :=
  a.capabilities.contains Capabilities.placeEmergencyCalls

def record : Record Account where
  name := "Account"
  fields :=
    [⟨"handle", Handle, Handle.codec, none⟩,
      ⟨"capabilities", Capabilities, .flags .capabilities, some .empty⟩]
  make := fun (handle, capabilities, _) => { handle, capabilities }
  view a := (a.handle, a.capabilities, ())

def codec : Codec Account := record.codec

end Account

/-- Telephone numbers, addresses of internet telephony, and voicemail. -/
inductive Scheme
  | tel
  | sip
  | voicemail
deriving DecidableEq, Repr

namespace Scheme

def all : List Scheme := [.tel, .sip, .voicemail]

def name : Scheme → String
  | .tel => "tel"
  | .sip => "sip"
  | .voicemail => "voicemail"

def codec : Codec Scheme := .choice all name

end Scheme
end EmergencyDial
