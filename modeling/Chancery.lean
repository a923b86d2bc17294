import Chancery.Account
import Chancery.Base58Agreement
import Chancery.BinaryCodecLaws
import Chancery.BuilderAgreement
import Chancery.Confirmation
import Chancery.ControllerInstruction
import Chancery.DiscoveryAgreement
import Chancery.EventLaws
import Chancery.Instruction
import Chancery.InstructionAccountLaws
import Chancery.KeypairSigning
import Chancery.Lib.Codec
import Chancery.Lib.LittleEndian
import Chancery.Lib.PrefixCount
import Chancery.LimitSafety
import Chancery.LimitWindows
import Chancery.MessageAgreement
import Chancery.MissingAccounts
import Chancery.ObservationFloor
import Chancery.OperationDocumentAgreement
import Chancery.OperationDocumentLaws
import Chancery.PathwaySelection
import Chancery.PolicyAgreement
import Chancery.ProgramAddressLaws
import Chancery.ProposalExecution
import Chancery.Readiness
import Chancery.SettlementExecution
import Chancery.SettlementGates
import Chancery.ShortVector
import Chancery.SolanaAccounts
import Chancery.SolanaTransactionLaws
import Chancery.SplToken
import Chancery.SquadsExecution
import Chancery.TokenMintGrammar
import Chancery.TransferFees
import Chancery.UnsignedTransactions
import Chancery.WebEncoderAgreement
import Chancery.WebFidelity
import Chancery.OperationExport
import Chancery.OperationExportAgreement
import Chancery.ReadyInstruction
import Chancery.PermissionGrant
import Chancery.SettlementTransaction
