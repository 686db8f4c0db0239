import Switchboard.Accounts
import Switchboard.CommandLine
import Switchboard.Main
import Switchboard.Proofs.Accounts.Decisions
import Switchboard.Proofs.Accounts.Durability
import Switchboard.Proofs.Accounts.Gate
import Switchboard.Proofs.Accounts.Influence
import Switchboard.Proofs.Accounts.Invariant
import Switchboard.Proofs.Accounts.Origin
import Switchboard.Proofs.Api.Templates
import Switchboard.Proofs.Dispatch.Appending
import Switchboard.Proofs.Dispatch.Fidelity
import Switchboard.Proofs.Dispatch.Reading
import Switchboard.Proofs.Banner
import Switchboard.Proofs.Rules.Recognition
import Switchboard.Proofs.Values
import Switchboard.Proofs.Dispatch.Calls
import Switchboard.Proofs.Dispatch.Filling
import Switchboard.Proofs.Dispatch.Linked
import Switchboard.Proofs.Dispatch.Literals
import Switchboard.Proofs.Api.Linking
import Switchboard.Proofs.Dispatch.Grouping
import Switchboard.Proofs.Doc.Clauses
import Switchboard.Proofs.Doc.Directive
import Switchboard.Proofs.Doc.Tag
import Switchboard.Proofs.Source.Annotations
import Switchboard.Proofs.Rules.Splitting
