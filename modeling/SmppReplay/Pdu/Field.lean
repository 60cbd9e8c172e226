/-!
# Fields of messages

`FieldId` names every field that some message can have. `FieldSpec` describes a mandatory
field and `TlvSpec` an optional one, which travels as a tag, a length and a value.
-/

namespace SmppReplay

/-- The fields: first those that are mandatory somewhere, then the optional ones. -/
inductive FieldId where
  | systemId
  | password
  | systemType
  | interfaceVersion
  | addrTon
  | addrNpi
  | addressRange
  | messageId
  | sourceAddrTon
  | sourceAddrNpi
  | sourceAddr
  | destAddrTon
  | destAddrNpi
  | destinationAddr
  | finalDate
  | messageState
  | errorCode
  | serviceType
  | esmClass
  | protocolId
  | priorityFlag
  | scheduleDeliveryTime
  | validityPeriod
  | registeredDelivery
  | replaceIfPresentFlag
  | dataCoding
  | smDefaultMsgId
  | shortMessage
  | destAddresses
  | unsuccessSmes
  | esmeAddrTon
  | esmeAddrNpi
  | esmeAddr
  | scInterfaceVersion
  | userMessageReference
  | sourcePort
  | sourceAddrSubunit
  | destinationPort
  | destAddrSubunit
  | sarMsgRefNum
  | sarTotalSegments
  | sarSegmentSeqnum
  | moreMessagesToSend
  | payloadType
  | messagePayload
  | privacyIndicator
  | callbackNum
  | callbackNumPresInd
  | callbackNumAtag
  | sourceSubaddress
  | destSubaddress
  | userResponseCode
  | displayTime
  | smsSignal
  | msValidity
  | msMsgWaitFacilities
  | numberOfMessages
  | alertOnMsgDelivery
  | languageIndicator
  | itsReplyType
  | itsSessionInfo
  | ussdServiceOp
  | networkErrorCode
  | messageStateOption
  | receiptedMessageId
  | sourceNetworkType
  | sourceBearerType
  | sourceTelematicsId
  | destNetworkType
  | destBearerType
  | destTelematicsId
  | qosTimeToLive
  | setDpf
  | deliveryFailureReason
  | additionalStatusInfoText
  | dpfResult
  | msAvailabilityStatus
  deriving DecidableEq, Repr

namespace FieldId

/-- Every field, in order of declaration. -/
def all : List FieldId := [
  .systemId, .password, .systemType, .interfaceVersion, .addrTon, .addrNpi, .addressRange,
  .messageId, .sourceAddrTon, .sourceAddrNpi, .sourceAddr, .destAddrTon, .destAddrNpi,
  .destinationAddr, .finalDate, .messageState, .errorCode, .serviceType, .esmClass,
  .protocolId, .priorityFlag, .scheduleDeliveryTime, .validityPeriod, .registeredDelivery,
  .replaceIfPresentFlag, .dataCoding, .smDefaultMsgId, .shortMessage, .destAddresses,
  .unsuccessSmes, .esmeAddrTon, .esmeAddrNpi, .esmeAddr, .scInterfaceVersion,
  .userMessageReference, .sourcePort, .sourceAddrSubunit, .destinationPort, .destAddrSubunit,
  .sarMsgRefNum, .sarTotalSegments, .sarSegmentSeqnum, .moreMessagesToSend, .payloadType,
  .messagePayload, .privacyIndicator, .callbackNum, .callbackNumPresInd, .callbackNumAtag,
  .sourceSubaddress, .destSubaddress, .userResponseCode, .displayTime, .smsSignal,
  .msValidity, .msMsgWaitFacilities, .numberOfMessages, .alertOnMsgDelivery,
  .languageIndicator, .itsReplyType, .itsSessionInfo, .ussdServiceOp, .networkErrorCode,
  .messageStateOption, .receiptedMessageId, .sourceNetworkType, .sourceBearerType,
  .sourceTelematicsId, .destNetworkType, .destBearerType, .destTelematicsId, .qosTimeToLive,
  .setDpf, .deliveryFailureReason, .additionalStatusInfoText, .dpfResult,
  .msAvailabilityStatus]

/-- The name of the field in messages about it. -/
def name : FieldId → String
  | .systemId => "SystemId"
  | .password => "Password"
  | .systemType => "SystemType"
  | .interfaceVersion => "InterfaceVersion"
  | .addrTon => "AddrTon"
  | .addrNpi => "AddrNpi"
  | .addressRange => "AddressRange"
  | .messageId => "MessageId"
  | .sourceAddrTon => "SourceAddrTon"
  | .sourceAddrNpi => "SourceAddrNpi"
  | .sourceAddr => "SourceAddr"
  | .destAddrTon => "DestAddrTon"
  | .destAddrNpi => "DestAddrNpi"
  | .destinationAddr => "DestinationAddr"
  | .finalDate => "FinalDate"
  | .messageState => "MessageState"
  | .errorCode => "ErrorCode"
  | .serviceType => "ServiceType"
  | .esmClass => "EsmClass"
  | .protocolId => "ProtocolId"
  | .priorityFlag => "PriorityFlag"
  | .scheduleDeliveryTime => "ScheduleDeliveryTime"
  | .validityPeriod => "ValidityPeriod"
  | .registeredDelivery => "RegisteredDelivery"
  | .replaceIfPresentFlag => "ReplaceIfPresentFlag"
  | .dataCoding => "DataCoding"
  | .smDefaultMsgId => "SmDefaultMsgId"
  | .shortMessage => "ShortMessage"
  | .destAddresses => "DestAddresses"
  | .unsuccessSmes => "UnsuccessSmes"
  | .esmeAddrTon => "EsmeAddrTon"
  | .esmeAddrNpi => "EsmeAddrNpi"
  | .esmeAddr => "EsmeAddr"
  | .scInterfaceVersion => "ScInterfaceVersion"
  | .userMessageReference => "UserMessageReference"
  | .sourcePort => "SourcePort"
  | .sourceAddrSubunit => "SourceAddrSubunit"
  | .destinationPort => "DestinationPort"
  | .destAddrSubunit => "DestAddrSubunit"
  | .sarMsgRefNum => "SarMsgRefNum"
  | .sarTotalSegments => "SarTotalSegments"
  | .sarSegmentSeqnum => "SarSegmentSeqnum"
  | .moreMessagesToSend => "MoreMessagesToSend"
  | .payloadType => "PayloadType"
  | .messagePayload => "MessagePayload"
  | .privacyIndicator => "PrivacyIndicator"
  | .callbackNum => "CallbackNum"
  | .callbackNumPresInd => "CallbackNumPresInd"
  | .callbackNumAtag => "CallbackNumAtag"
  | .sourceSubaddress => "SourceSubaddress"
  | .destSubaddress => "DestSubaddress"
  | .userResponseCode => "UserResponseCode"
  | .displayTime => "DisplayTime"
  | .smsSignal => "SmsSignal"
  | .msValidity => "MsValidity"
  | .msMsgWaitFacilities => "MsMsgWaitFacilities"
  | .numberOfMessages => "NumberOfMessages"
  | .alertOnMsgDelivery => "AlertOnMsgDelivery"
  | .languageIndicator => "LanguageIndicator"
  | .itsReplyType => "ItsReplyType"
  | .itsSessionInfo => "ItsSessionInfo"
  | .ussdServiceOp => "UssdServiceOp"
  | .networkErrorCode => "NetworkErrorCode"
  | .messageStateOption => "MessageStateOption"
  | .receiptedMessageId => "ReceiptedMessageId"
  | .sourceNetworkType => "SourceNetworkType"
  | .sourceBearerType => "SourceBearerType"
  | .sourceTelematicsId => "SourceTelematicsId"
  | .destNetworkType => "DestNetworkType"
  | .destBearerType => "DestBearerType"
  | .destTelematicsId => "DestTelematicsId"
  | .qosTimeToLive => "QosTimeToLive"
  | .setDpf => "SetDpf"
  | .deliveryFailureReason => "DeliveryFailureReason"
  | .additionalStatusInfoText => "AdditionalStatusInfoText"
  | .dpfResult => "DpfResult"
  | .msAvailabilityStatus => "MsAvailabilityStatus"

/-- The place of the field in the order of declaration. -/
def rank (id : FieldId) : Nat :=
  id.ctorIdx

/-- The field with the given name. -/
def ofName? (s : String) : Option FieldId :=
  all.find? fun id => id.name == s

end FieldId

/-- The wire form of a mandatory field. -/
inductive FieldKind where
  /-- A text that ends in NUL; `max` counts the NUL. -/
  | text (max : Nat)
  /-- One octet; a new message has the value `default`. -/
  | integer (default : UInt8)
  /-- A length octet and as many octets. -/
  | shortMessage
  /-- A count octet and as many destinations. -/
  | destinations
  /-- A count octet and as many failed destinations. -/
  | unsuccessful
  deriving DecidableEq, Repr

/-- A mandatory field of a message type. -/
structure FieldSpec where
  id : FieldId
  /-- The key of the field in transcripts. -/
  label : String
  /-- The preferred name of the field's element in scripts. -/
  element : String
  /-- Further names that scripts may use. -/
  aliases : List String := []
  kind : FieldKind
  /-- A script must give the field. -/
  required : Bool := false
  deriving DecidableEq, Repr

namespace FieldSpec

/-- All names of the field's element, the preferred one first. -/
def elements (f : FieldSpec) : List String :=
  f.element :: f.aliases

/-- The name is one of those that a script may use for the field. -/
def accepts (f : FieldSpec) (element : String) : Bool :=
  f.elements.contains element

end FieldSpec

/-- The wire form of an optional field's value. -/
inductive TlvKind where
  | u8
  | u16
  | u32
  /-- A text that ends in NUL. -/
  | text
  | octets
  /-- No octets: the field is set by being there. -/
  | flag
  /-- A network type of one octet and an error code of two. -/
  | networkError
  deriving DecidableEq, Repr

/-- An optional field of a message type. -/
structure TlvSpec where
  id : FieldId
  /-- The number that marks the field on the wire. -/
  tag : UInt16
  /-- The key of the field in transcripts. -/
  label : String
  /-- The name of the field's element in scripts. -/
  element : String
  kind : TlvKind
  /-- A field that is not implemented is kept as raw octets when read and refused when
  written. -/
  implemented : Bool := true
  deriving DecidableEq, Repr

end SmppReplay
