import Footfall.Mail.Mailbox
import Footfall.Mail.Report
import Footfall.Settings.Basic
import Footfall.Text.Quoted

/-!
# Report e-mails

A mailer has a sender. It makes the message that brings a report to the address of a project;
projects without an address get none.
-/

namespace Footfall.Mail

/-- Why there is no message. -/
inductive MailError where
  | invalidSender (cause : AddressError)
  | invalidRecipient (address : String) (cause : AddressError)
  deriving DecidableEq, Repr

/-- The wording of an error. -/
def MailError.message : MailError → String
  | .invalidSender cause => "invalid SIGHTLINE_SMTP_FROM: " ++ cause.message
  | .invalidRecipient address cause =>
    "invalid report address " ++ Text.quoted address ++ ": " ++ cause.message

/-- A message that can be sent. -/
structure Message where
  sender : Mailbox
  recipient : Mailbox
  subject : String
  body : String
  deriving DecidableEq, Repr

/-- Where messages come from. -/
structure Mailer where
  sender : Mailbox
  deriving DecidableEq, Repr

namespace Mailer

/-- The mailer of some settings. -/
def ofSettings (s : MailSettings) : Except MailError Mailer :=
  match parseMailbox s.sender with
  | .ok sender => .ok ⟨sender⟩
  | .error cause => .error (.invalidSender cause)

/-- The message that brings a report to a project, absent when the project wants none. -/
def compose (m : Mailer) (p : Project) (r : Report Float) : Except MailError (Option Message) :=
  match p.reportEmail with
  | none => .ok none
  | some target =>
    match parseMailbox target with
    | .error cause => .error (.invalidRecipient target cause)
    | .ok recipient =>
      .ok (some ⟨m.sender, recipient, "Sightline report: " ++ p.name, reportText p r⟩)

end Mailer

end Footfall.Mail
