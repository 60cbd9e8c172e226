import SmppReplay.Text.AsciiCase
import SmppReplay.Text.Blank

/-!
# Status codes

The result codes that the protocol defines, each with its number and its symbolic name, and
the way a status is shown: known codes by name, others in decimal.
-/

namespace SmppReplay

/-- The defined results of a command, in the order of their numbers. -/
inductive StatusCode where
  | ok
  | invalidMsgLen
  | invalidCmdLen
  | invalidCmdId
  | invalidBindStatus
  | alreadyBound
  | invalidPriorityFlag
  | invalidRegisteredDeliveryFlag
  | systemError
  | invalidSourceAddr
  | invalidDestAddr
  | invalidMessageId
  | bindFailed
  | invalidPassword
  | invalidSystemId
  | cancelFailed
  | replaceFailed
  | messageQueueFull
  | invalidServiceType
  | addCustomerFailed
  | deleteCustomerFailed
  | modifyCustomerFailed
  | enquireCustomerFailed
  | invalidCustomerId
  | invalidCustomerName
  | invalidCustomerAddr
  | invalidAddr
  | customerExists
  | customerNotExists
  | addDistributionListFailed
  | modifyDistributionListFailed
  | deleteDistributionListFailed
  | viewDistributionListFailed
  | listDistributionListsFailed
  | paramRetrieveFailed
  | invalidParam
  | invalidNumberOfDests
  | invalidDistributionListName
  | invalidDistributionListMemberDesc
  | invalidDistributionListMemberType
  | invalidDistributionListModifyOption
  | invalidDestFlag
  | invalidSubmitWithReplace
  | invalidEsmClass
  | cannotSubmitToDistributionList
  | submitFailed
  | invalidSourceTon
  | invalidSourceNpi
  | invalidDestTon
  | invalidDestNpi
  | invalidSystemType
  | invalidReplaceFlag
  | invalidNumberOfMessages
  | throttled
  | provisioningNotAllowed
  | invalidScheduledDeliveryTime
  | invalidExpiry
  | invalidDefaultMsgId
  | tempAppError
  | permAppError
  | rejectAppError
  | queryFailed
  | invalidPagingCustomerId
  | invalidPagingCustomerIdLen
  | invalidCityLen
  | invalidStateLen
  | invalidZipPrefixLen
  | invalidZipPostfixLen
  | invalidMinLen
  | invalidMin
  | invalidPinLen
  | invalidTerminalCodeLen
  | invalidChannelLen
  | invalidCoverageRegionLen
  | invalidCapCodeLen
  | invalidMessageDeliveryTimeLen
  | invalidPriorityMessageLen
  | invalidPeriodicMessageLen
  | invalidPagingAlertLen
  | invalidSmUserLen
  | invalidRtdbLen
  | invalidRegisteredDeliveryLen
  | invalidMessageDistributionLen
  | invalidPriorityMessage
  | invalidMessageDeliveryTime
  | invalidPeriodicMessage
  | invalidMessageDistribution
  | invalidPagingAlert
  | invalidSmUser
  | invalidRtdb
  | invalidRegisteredDelivery
  | invalidOptionalParamStream
  | optionalParamNotAllowed
  | invalidOptionalParamLen
  | missingOptionalParam
  | invalidOptionalParamValue
  | deliveryFailure
  | unknownError
  deriving DecidableEq, Repr

namespace StatusCode

/-- Every code, in order of declaration. -/
def all : List StatusCode := [
  .ok, .invalidMsgLen, .invalidCmdLen, .invalidCmdId, .invalidBindStatus, .alreadyBound,
  .invalidPriorityFlag, .invalidRegisteredDeliveryFlag, .systemError, .invalidSourceAddr,
  .invalidDestAddr, .invalidMessageId, .bindFailed, .invalidPassword, .invalidSystemId,
  .cancelFailed, .replaceFailed, .messageQueueFull, .invalidServiceType, .addCustomerFailed,
  .deleteCustomerFailed, .modifyCustomerFailed, .enquireCustomerFailed, .invalidCustomerId,
  .invalidCustomerName, .invalidCustomerAddr, .invalidAddr, .customerExists,
  .customerNotExists, .addDistributionListFailed, .modifyDistributionListFailed,
  .deleteDistributionListFailed, .viewDistributionListFailed, .listDistributionListsFailed,
  .paramRetrieveFailed, .invalidParam, .invalidNumberOfDests, .invalidDistributionListName,
  .invalidDistributionListMemberDesc, .invalidDistributionListMemberType,
  .invalidDistributionListModifyOption, .invalidDestFlag, .invalidSubmitWithReplace,
  .invalidEsmClass, .cannotSubmitToDistributionList, .submitFailed, .invalidSourceTon,
  .invalidSourceNpi, .invalidDestTon, .invalidDestNpi, .invalidSystemType,
  .invalidReplaceFlag, .invalidNumberOfMessages, .throttled, .provisioningNotAllowed,
  .invalidScheduledDeliveryTime, .invalidExpiry, .invalidDefaultMsgId, .tempAppError,
  .permAppError, .rejectAppError, .queryFailed, .invalidPagingCustomerId,
  .invalidPagingCustomerIdLen, .invalidCityLen, .invalidStateLen, .invalidZipPrefixLen,
  .invalidZipPostfixLen, .invalidMinLen, .invalidMin, .invalidPinLen, .invalidTerminalCodeLen,
  .invalidChannelLen, .invalidCoverageRegionLen, .invalidCapCodeLen,
  .invalidMessageDeliveryTimeLen, .invalidPriorityMessageLen, .invalidPeriodicMessageLen,
  .invalidPagingAlertLen, .invalidSmUserLen, .invalidRtdbLen, .invalidRegisteredDeliveryLen,
  .invalidMessageDistributionLen, .invalidPriorityMessage, .invalidMessageDeliveryTime,
  .invalidPeriodicMessage, .invalidMessageDistribution, .invalidPagingAlert, .invalidSmUser,
  .invalidRtdb, .invalidRegisteredDelivery, .invalidOptionalParamStream,
  .optionalParamNotAllowed, .invalidOptionalParamLen, .missingOptionalParam,
  .invalidOptionalParamValue, .deliveryFailure, .unknownError]

/-- The number of the code on the wire. -/
def code : StatusCode → UInt32
  | .ok => 0x00
  | .invalidMsgLen => 0x01
  | .invalidCmdLen => 0x02
  | .invalidCmdId => 0x03
  | .invalidBindStatus => 0x04
  | .alreadyBound => 0x05
  | .invalidPriorityFlag => 0x06
  | .invalidRegisteredDeliveryFlag => 0x07
  | .systemError => 0x08
  | .invalidSourceAddr => 0x0A
  | .invalidDestAddr => 0x0B
  | .invalidMessageId => 0x0C
  | .bindFailed => 0x0D
  | .invalidPassword => 0x0E
  | .invalidSystemId => 0x0F
  | .cancelFailed => 0x11
  | .replaceFailed => 0x13
  | .messageQueueFull => 0x14
  | .invalidServiceType => 0x15
  | .addCustomerFailed => 0x19
  | .deleteCustomerFailed => 0x1A
  | .modifyCustomerFailed => 0x1B
  | .enquireCustomerFailed => 0x1C
  | .invalidCustomerId => 0x1D
  | .invalidCustomerName => 0x1F
  | .invalidCustomerAddr => 0x21
  | .invalidAddr => 0x22
  | .customerExists => 0x23
  | .customerNotExists => 0x24
  | .addDistributionListFailed => 0x26
  | .modifyDistributionListFailed => 0x27
  | .deleteDistributionListFailed => 0x28
  | .viewDistributionListFailed => 0x29
  | .listDistributionListsFailed => 0x30
  | .paramRetrieveFailed => 0x31
  | .invalidParam => 0x32
  | .invalidNumberOfDests => 0x33
  | .invalidDistributionListName => 0x34
  | .invalidDistributionListMemberDesc => 0x35
  | .invalidDistributionListMemberType => 0x38
  | .invalidDistributionListModifyOption => 0x39
  | .invalidDestFlag => 0x40
  | .invalidSubmitWithReplace => 0x42
  | .invalidEsmClass => 0x43
  | .cannotSubmitToDistributionList => 0x44
  | .submitFailed => 0x45
  | .invalidSourceTon => 0x48
  | .invalidSourceNpi => 0x49
  | .invalidDestTon => 0x50
  | .invalidDestNpi => 0x51
  | .invalidSystemType => 0x53
  | .invalidReplaceFlag => 0x54
  | .invalidNumberOfMessages => 0x55
  | .throttled => 0x58
  | .provisioningNotAllowed => 0x59
  | .invalidScheduledDeliveryTime => 0x61
  | .invalidExpiry => 0x62
  | .invalidDefaultMsgId => 0x63
  | .tempAppError => 0x64
  | .permAppError => 0x65
  | .rejectAppError => 0x66
  | .queryFailed => 0x67
  | .invalidPagingCustomerId => 0x80
  | .invalidPagingCustomerIdLen => 0x81
  | .invalidCityLen => 0x82
  | .invalidStateLen => 0x83
  | .invalidZipPrefixLen => 0x84
  | .invalidZipPostfixLen => 0x85
  | .invalidMinLen => 0x86
  | .invalidMin => 0x87
  | .invalidPinLen => 0x88
  | .invalidTerminalCodeLen => 0x89
  | .invalidChannelLen => 0x8A
  | .invalidCoverageRegionLen => 0x8B
  | .invalidCapCodeLen => 0x8C
  | .invalidMessageDeliveryTimeLen => 0x8D
  | .invalidPriorityMessageLen => 0x8E
  | .invalidPeriodicMessageLen => 0x8F
  | .invalidPagingAlertLen => 0x90
  | .invalidSmUserLen => 0x91
  | .invalidRtdbLen => 0x92
  | .invalidRegisteredDeliveryLen => 0x93
  | .invalidMessageDistributionLen => 0x94
  | .invalidPriorityMessage => 0x95
  | .invalidMessageDeliveryTime => 0x96
  | .invalidPeriodicMessage => 0x97
  | .invalidMessageDistribution => 0x98
  | .invalidPagingAlert => 0x99
  | .invalidSmUser => 0x9A
  | .invalidRtdb => 0x9B
  | .invalidRegisteredDelivery => 0x9C
  | .invalidOptionalParamStream => 0x9D
  | .optionalParamNotAllowed => 0x9E
  | .invalidOptionalParamLen => 0x9F
  | .missingOptionalParam => 0xC3
  | .invalidOptionalParamValue => 0xC4
  | .deliveryFailure => 0xFE
  | .unknownError => 0xFF

/-- The symbolic name of the code. -/
def name : StatusCode → String
  | .ok => "ESME_ROK"
  | .invalidMsgLen => "ESME_RINVMSGLEN"
  | .invalidCmdLen => "ESME_RINVCMDLEN"
  | .invalidCmdId => "ESME_RINVCMDID"
  | .invalidBindStatus => "ESME_RINVBNDSTS"
  | .alreadyBound => "ESME_RALYBND"
  | .invalidPriorityFlag => "ESME_RINVPRTFLG"
  | .invalidRegisteredDeliveryFlag => "ESME_RINVREGDLVFLG"
  | .systemError => "ESME_RSYSERR"
  | .invalidSourceAddr => "ESME_RINVSRCADR"
  | .invalidDestAddr => "ESME_RINVDSTADR"
  | .invalidMessageId => "ESME_RINVMSGID"
  | .bindFailed => "ESME_RBINDFAIL"
  | .invalidPassword => "ESME_RINVPASWD"
  | .invalidSystemId => "ESME_RINVSYSID"
  | .cancelFailed => "ESME_RCANCELFAIL"
  | .replaceFailed => "ESME_RREPLACEFAIL"
  | .messageQueueFull => "ESME_RMSGQFUL"
  | .invalidServiceType => "ESME_RINVSERTYP"
  | .addCustomerFailed => "ESME_RADDCUSTFAIL"
  | .deleteCustomerFailed => "ESME_RDELCUSTFAIL"
  | .modifyCustomerFailed => "ESME_RMODCUSTFAIL"
  | .enquireCustomerFailed => "ESME_RENQCUSTFAIL"
  | .invalidCustomerId => "ESME_RINVCUSTID"
  | .invalidCustomerName => "ESME_RINVCUSTNAME"
  | .invalidCustomerAddr => "ESME_RINVCUSTADR"
  | .invalidAddr => "ESME_RINVADR"
  | .customerExists => "ESME_RCUSTEXIST"
  | .customerNotExists => "ESME_RCUSTNOTEXIST"
  | .addDistributionListFailed => "ESME_RADDDLFAIL"
  | .modifyDistributionListFailed => "ESME_RMODDLFAIL"
  | .deleteDistributionListFailed => "ESME_RDELDLFAIL"
  | .viewDistributionListFailed => "ESME_RVIEWDLFAIL"
  | .listDistributionListsFailed => "ESME_RLISTDLSFAIL"
  | .paramRetrieveFailed => "ESME_RPARAMRETFAIL"
  | .invalidParam => "ESME_RINVPARAM"
  | .invalidNumberOfDests => "ESME_RINVNUMDESTS"
  | .invalidDistributionListName => "ESME_RINVDLNAME"
  | .invalidDistributionListMemberDesc => "ESME_RINVDLMEMBDESC"
  | .invalidDistributionListMemberType => "ESME_RINVDLMEMBTYP"
  | .invalidDistributionListModifyOption => "ESME_RINVDLMODOPT"
  | .invalidDestFlag => "ESME_RINVDESTFLAG"
  | .invalidSubmitWithReplace => "ESME_RINVSUBREP"
  | .invalidEsmClass => "ESME_RINVESMCLASS"
  | .cannotSubmitToDistributionList => "ESME_RCNTSUBDL"
  | .submitFailed => "ESME_RSUBMITFAIL"
  | .invalidSourceTon => "ESME_RINVSRCTON"
  | .invalidSourceNpi => "ESME_RINVSRCNPI"
  | .invalidDestTon => "ESME_RINVDSTTON"
  | .invalidDestNpi => "ESME_RINVDSTNPI"
  | .invalidSystemType => "ESME_RINVSYSTYP"
  | .invalidReplaceFlag => "ESME_RINVREPFLAG"
  | .invalidNumberOfMessages => "ESME_RINVNUMMSGS"
  | .throttled => "ESME_RTHROTTLED"
  | .provisioningNotAllowed => "ESME_RPROVNOTALLWD"
  | .invalidScheduledDeliveryTime => "ESME_RINVSCHED"
  | .invalidExpiry => "ESME_RINVEXPIRY"
  | .invalidDefaultMsgId => "ESME_RINVDFTMSGID"
  | .tempAppError => "ESME_RX_T_APPN"
  | .permAppError => "ESME_RX_P_APPN"
  | .rejectAppError => "ESME_RX_R_APPN"
  | .queryFailed => "ESME_RQUERYFAIL"
  | .invalidPagingCustomerId => "ESME_RINVPGCUSTID"
  | .invalidPagingCustomerIdLen => "ESME_RINVPGCUSTIDLEN"
  | .invalidCityLen => "ESME_RINVCITYLEN"
  | .invalidStateLen => "ESME_RINVSTATELEN"
  | .invalidZipPrefixLen => "ESME_RINVZIPPREFIXLEN"
  | .invalidZipPostfixLen => "ESME_RINVZIPPOSTFIXLEN"
  | .invalidMinLen => "ESME_RINVMINLEN"
  | .invalidMin => "ESME_RINVMIN"
  | .invalidPinLen => "ESME_RINVPINLEN"
  | .invalidTerminalCodeLen => "ESME_RINVTERMCODELEN"
  | .invalidChannelLen => "ESME_RINVCHANNELLEN"
  | .invalidCoverageRegionLen => "ESME_RINVCOVREGIONLEN"
  | .invalidCapCodeLen => "ESME_RINVCAPCODELEN"
  | .invalidMessageDeliveryTimeLen => "ESME_RINVMDTLEN"
  | .invalidPriorityMessageLen => "ESME_RINVPRIORMSGLEN"
  | .invalidPeriodicMessageLen => "ESME_RINVPERMSGLEN"
  | .invalidPagingAlertLen => "ESME_RINVPGALERTLEN"
  | .invalidSmUserLen => "ESME_RINVSMUSERLEN"
  | .invalidRtdbLen => "ESME_RINVRTDBLEN"
  | .invalidRegisteredDeliveryLen => "ESME_RINVREGDELLEN"
  | .invalidMessageDistributionLen => "ESME_RINVMSGDISTLEN"
  | .invalidPriorityMessage => "ESME_RINVPRIORMSG"
  | .invalidMessageDeliveryTime => "ESME_RINVMDT"
  | .invalidPeriodicMessage => "ESME_RINVPERMSG"
  | .invalidMessageDistribution => "ESME_RINVMSGDIST"
  | .invalidPagingAlert => "ESME_RINVPGALERT"
  | .invalidSmUser => "ESME_RINVSMUSER"
  | .invalidRtdb => "ESME_RINVRTDB"
  | .invalidRegisteredDelivery => "ESME_RINVREGDEL"
  | .invalidOptionalParamStream => "ESME_RINVOPTPARSTREAM"
  | .optionalParamNotAllowed => "ESME_ROPTPARNOTALLWD"
  | .invalidOptionalParamLen => "ESME_RINVOPTPARLEN"
  | .missingOptionalParam => "ESME_RMISSINGOPTPARAM"
  | .invalidOptionalParamValue => "ESME_RINVOPTPARAMVAL"
  | .deliveryFailure => "ESME_RDELIVERYFAILURE"
  | .unknownError => "ESME_RUNKNOWNERR"

/-- The defined code with the given number. -/
def ofCode? (n : UInt32) : Option StatusCode :=
  all.find? fun s => s.code == n

/-- The code with the given name, up to blanks at the ends and the case of ASCII letters. -/
def ofName? (s : String) : Option StatusCode :=
  all.find? fun c => c.name == Text.upperAscii (Text.trim s)

/-- How a status is shown: by its name if it has one, else in decimal. -/
def label (n : UInt32) : String :=
  match ofCode? n with
  | some s => s.name
  | none => toString n.toNat

end StatusCode

end SmppReplay
