import SmppReplay.Pdu.Field
import SmppReplay.Pdu.MessageType

/-!
# Layouts

For each message type, its mandatory fields in wire order and its optional fields in the
order in which they are written.  The tables are the single source for building, writing,
reading, compiling and showing messages.
-/

namespace SmppReplay

/-- The fields of a message type. -/
structure Layout where
  mandatory : List FieldSpec
  optional : List TlvSpec
  /-- Why messages of the type cannot be written, if they cannot. -/
  unsupported : Option String := none
  deriving Repr

namespace Layout

/-- The mandatory field with the given id. -/
def mandatoryField? (l : Layout) (id : FieldId) : Option FieldSpec :=
  l.mandatory.find? fun f => f.id == id

/-- The optional field with the given id. -/
def optionalField? (l : Layout) (id : FieldId) : Option TlvSpec :=
  l.optional.find? fun t => t.id == id

/-- The optional field with the given tag. -/
def byTag? (l : Layout) (tag : UInt16) : Option TlvSpec :=
  l.optional.find? fun t => t.tag == tag

/-- Messages of the type can be written. -/
def isSupported (l : Layout) : Bool :=
  l.unsupported.isNone

end Layout

namespace FieldTable

/-- A text of at most `max - 1` octets. -/
def textField (id : FieldId) (label element : String) (max : Nat) : FieldSpec :=
  { id, label, element, kind := .text max }

/-- An octet that is zero in a new message. -/
def octetField (id : FieldId) (label element : String) (aliases : List String := []) :
    FieldSpec :=
  { id, label, element, aliases, kind := .integer 0 }

def systemId : FieldSpec := textField .systemId "SystemID" "SystemId" 16

def password : FieldSpec := textField .password "Password" "Password" 9

def systemType : FieldSpec := textField .systemType "SystemType" "SystemType" 13

def interfaceVersion : FieldSpec :=
  { id := .interfaceVersion, label := "InterfaceVersion", element := "InterfaceVersion"
    kind := .integer 0x34 }

def addrTon : FieldSpec := octetField .addrTon "AddrTON" "AddrTON"

def addrNpi : FieldSpec := octetField .addrNpi "AddrNPI" "AddrNPI"

def addressRange : FieldSpec := textField .addressRange "AddressRange" "AddressRange" 41

def messageId : FieldSpec := textField .messageId "MessageID" "MessageId" 65

def sourceAddrTon : FieldSpec :=
  octetField .sourceAddrTon "SourceAddrTON" "SourceAddrTON" ["AddrTON"]

def sourceAddrNpi : FieldSpec :=
  octetField .sourceAddrNpi "SourceAddrNPI" "SourceAddrNPI" ["AddrNPI"]

def sourceAddr : FieldSpec := textField .sourceAddr "SourceAddr" "SourceAddr" 21

def sourceAddrLong : FieldSpec := textField .sourceAddr "SourceAddr" "SourceAddr" 65

def destAddrTon : FieldSpec := octetField .destAddrTon "DestAddrTON" "DestAddrTON"

def destAddrNpi : FieldSpec := octetField .destAddrNpi "DestAddrNPI" "DestAddrNPI"

def destinationAddr : FieldSpec :=
  textField .destinationAddr "DestinationAddr" "DestinationAddr" 21

def destinationAddrLong : FieldSpec :=
  textField .destinationAddr "DestinationAddr" "DestinationAddr" 65

def finalDate : FieldSpec := textField .finalDate "FinalDate" "FinalDate" 17

def messageState : FieldSpec := octetField .messageState "MessageState" "MessageState"

def errorCode : FieldSpec := octetField .errorCode "ErrorCode" "ErrorCode"

def serviceType : FieldSpec := textField .serviceType "ServiceType" "ServiceType" 6

def esmClass : FieldSpec := octetField .esmClass "EsmClass" "EsmClass"

def protocolId : FieldSpec := octetField .protocolId "ProtocolID" "ProtocolId"

def priorityFlag : FieldSpec := octetField .priorityFlag "PriorityFlag" "PriorityFlag"

def scheduleDeliveryTime : FieldSpec :=
  textField .scheduleDeliveryTime "ScheduleDeliveryTime" "ScheduleDeliveryTime" 17

def validityPeriod : FieldSpec :=
  textField .validityPeriod "ValidityPeriod" "ValidityPeriod" 17

def registeredDelivery : FieldSpec :=
  octetField .registeredDelivery "RegisteredDelivery" "RegisteredDelivery"

def replaceIfPresentFlag : FieldSpec :=
  octetField .replaceIfPresentFlag "ReplaceIfPresentFlag" "ReplaceIfPresentFlag"

def dataCoding : FieldSpec := octetField .dataCoding "DataCoding" "DataCoding"

def smDefaultMsgId : FieldSpec := octetField .smDefaultMsgId "SmDefaultMsgID" "SmDefaultMsgId"

def shortMessage : FieldSpec :=
  { id := .shortMessage, label := "ShortMessage", element := "ShortMessage",
    kind := .shortMessage }

def destAddresses : FieldSpec :=
  { id := .destAddresses, label := "DestAddresses", element := "DestinationAddresses"
    kind := .destinations, required := true }

def unsuccessSmes : FieldSpec :=
  { id := .unsuccessSmes, label := "UnsuccessSme", element := "UnsuccessSmes"
    kind := .unsuccessful }

def esmeAddrTon : FieldSpec := octetField .esmeAddrTon "EsmeAddrTON" "EsmeAddrTON"

def esmeAddrNpi : FieldSpec := octetField .esmeAddrNpi "EsmeAddrNPI" "EsmeAddrNPI"

def esmeAddr : FieldSpec := textField .esmeAddr "EsmeAddr" "EsmeAddr" 65

def scInterfaceVersion : TlvSpec :=
  ⟨.scInterfaceVersion, 0x0210, "ScInterfaceVersion", "ScInterfaceVersion", .u8, true⟩

def userMessageReference : TlvSpec :=
  ⟨.userMessageReference, 0x0204, "UserMessageReference", "UserMessageReference", .u16, true⟩

def sourcePort : TlvSpec := ⟨.sourcePort, 0x020A, "SourcePort", "SourcePort", .u16, true⟩

def sourceAddrSubunit : TlvSpec :=
  ⟨.sourceAddrSubunit, 0x000D, "SourceAddrSubunit", "SourceAddrSubunit", .u8, true⟩

def destinationPort : TlvSpec :=
  ⟨.destinationPort, 0x020B, "DestinationPort", "DestinationPort", .u16, true⟩

def destAddrSubunit : TlvSpec :=
  ⟨.destAddrSubunit, 0x0005, "DestAddrSubunit", "DestAddrSubunit", .u8, true⟩

def sarMsgRefNum : TlvSpec :=
  ⟨.sarMsgRefNum, 0x020C, "SarMsgRefNum", "SarMsgRefNum", .u16, true⟩

def sarTotalSegments : TlvSpec :=
  ⟨.sarTotalSegments, 0x020E, "SarTotalSegments", "SarTotalSegments", .u8, true⟩

def sarSegmentSeqnum : TlvSpec :=
  ⟨.sarSegmentSeqnum, 0x020F, "SarSegmentSeqNum", "SarSegmentSeqnum", .u8, true⟩

def moreMessagesToSend : TlvSpec :=
  ⟨.moreMessagesToSend, 0x0426, "MoreMessagesToSend", "MoreMsgsToSend", .u8, true⟩

def payloadType : TlvSpec := ⟨.payloadType, 0x0019, "PayloadType", "PayloadType", .u8, true⟩

def messagePayload : TlvSpec :=
  ⟨.messagePayload, 0x0424, "MessagePayload", "MessagePayload", .octets, true⟩

def privacyIndicator : TlvSpec :=
  ⟨.privacyIndicator, 0x0201, "PrivacyIndicator", "PrivacyIndicator", .u8, true⟩

def callbackNum : TlvSpec :=
  ⟨.callbackNum, 0x0381, "CallbackNum", "CallBackNum", .octets, false⟩

def callbackNumPresInd : TlvSpec :=
  ⟨.callbackNumPresInd, 0x0302, "CallbackNumPresInd", "CallbackNumPresInd", .u8, true⟩

def callbackNumAtag : TlvSpec :=
  ⟨.callbackNumAtag, 0x0303, "CallbackNumAtag", "CallBackNumATag", .octets, false⟩

def sourceSubaddress : TlvSpec :=
  ⟨.sourceSubaddress, 0x0202, "SourceSubaddress", "SourceSubaddress", .octets, false⟩

def destSubaddress : TlvSpec :=
  ⟨.destSubaddress, 0x0203, "DestSubaddress", "DestSubaddress", .octets, false⟩

def userResponseCode : TlvSpec :=
  ⟨.userResponseCode, 0x0205, "UserResponseCode", "UserResponseCode", .u8, true⟩

def displayTime : TlvSpec := ⟨.displayTime, 0x1201, "DisplayTime", "DisplayTime", .u8, true⟩

def smsSignal : TlvSpec := ⟨.smsSignal, 0x1203, "SmsSignal", "SmsSignal", .u16, true⟩

def msValidity : TlvSpec := ⟨.msValidity, 0x1204, "MsValidity", "MsValidity", .u8, true⟩

def msMsgWaitFacilities : TlvSpec :=
  ⟨.msMsgWaitFacilities, 0x0030, "MsMsgWaitFacilities", "MsMsgWaitFacilities", .u8, true⟩

def numberOfMessages : TlvSpec :=
  ⟨.numberOfMessages, 0x0304, "NumberOfMessages", "NumberOfMessages", .u8, true⟩

def alertOnMsgDelivery : TlvSpec :=
  ⟨.alertOnMsgDelivery, 0x130C, "AlertOnMsgDelivery", "AlertOnMsgDelivery", .flag, true⟩

def languageIndicator : TlvSpec :=
  ⟨.languageIndicator, 0x020D, "LanguageIndicator", "LanguageIndicator", .u8, true⟩

def itsReplyType : TlvSpec :=
  ⟨.itsReplyType, 0x1380, "ItsReplyType", "ItsReplyType", .u8, true⟩

def itsSessionInfo : TlvSpec :=
  ⟨.itsSessionInfo, 0x1383, "ItsSessionInfo", "ItsSessionInfo", .u16, true⟩

def ussdServiceOp : TlvSpec :=
  ⟨.ussdServiceOp, 0x0501, "UssdServiceOp", "UssdServiceOp", .u8, true⟩

def networkErrorCode : TlvSpec :=
  ⟨.networkErrorCode, 0x0423, "NetworkErrorCode", "NetworkErrorCode", .networkError, true⟩

def messageStateOption : TlvSpec :=
  ⟨.messageStateOption, 0x0427, "MessageState", "MessageState", .u8, true⟩

def receiptedMessageId : TlvSpec :=
  ⟨.receiptedMessageId, 0x001E, "ReceiptedMessageID", "ReceiptedMessageId", .text, true⟩

def sourceNetworkType : TlvSpec :=
  ⟨.sourceNetworkType, 0x000E, "SourceNetworkType", "SourceNetworkType", .u8, true⟩

def sourceBearerType : TlvSpec :=
  ⟨.sourceBearerType, 0x000F, "SourceBearerType", "SourceBearerType", .u8, true⟩

def sourceTelematicsId : TlvSpec :=
  ⟨.sourceTelematicsId, 0x0010, "SourceTelematicsID", "SourceTelematicsId", .u16, true⟩

def destNetworkType : TlvSpec :=
  ⟨.destNetworkType, 0x0006, "DestNetworkType", "DestNetworkType", .u8, true⟩

def destBearerType : TlvSpec :=
  ⟨.destBearerType, 0x0007, "DestBearerType", "DestBearerType", .u8, true⟩

def destTelematicsId : TlvSpec :=
  ⟨.destTelematicsId, 0x0008, "DestTelematicsID", "DestTelematicsId", .u16, true⟩

def qosTimeToLive : TlvSpec :=
  ⟨.qosTimeToLive, 0x0017, "QosTimeToLive", "QosTimeToLive", .u32, true⟩

def setDpf : TlvSpec := ⟨.setDpf, 0x0421, "SetDpf", "SetDpf", .u8, true⟩

def deliveryFailureReason : TlvSpec :=
  ⟨.deliveryFailureReason, 0x0425, "DeliveryFailureReason", "DeliveryFailureReason",
    .u8, true⟩

def additionalStatusInfoText : TlvSpec :=
  ⟨.additionalStatusInfoText, 0x001D, "AdditionalStatusInfoText", "AdditionalStatusInfoText",
    .text, true⟩

def dpfResult : TlvSpec := ⟨.dpfResult, 0x0420, "DpfResult", "DpfResult", .u8, true⟩

def msAvailabilityStatus : TlvSpec :=
  ⟨.msAvailabilityStatus, 0x0422, "MsAvailabilityStatus", "MsAvailabilityStatus", .u8, false⟩

def bindFields : List FieldSpec := [
  systemId, password, systemType, interfaceVersion, addrTon, addrNpi, addressRange]

def bindRespFields : List FieldSpec := [systemId]

def bindRespTlvs : List TlvSpec := [scInterfaceVersion]

def outbindFields : List FieldSpec := [systemId, password]

def messageIdFields : List FieldSpec := [messageId]

def querySmFields : List FieldSpec := [messageId, sourceAddrTon, sourceAddrNpi, sourceAddr]

def querySmRespFields : List FieldSpec := [messageId, finalDate, messageState, errorCode]

def submitSmFields : List FieldSpec := [
  serviceType, sourceAddrTon, sourceAddrNpi, sourceAddr, destAddrTon, destAddrNpi,
  destinationAddr, esmClass, protocolId, priorityFlag, scheduleDeliveryTime, validityPeriod,
  registeredDelivery, replaceIfPresentFlag, dataCoding, smDefaultMsgId, shortMessage]

def submitSmTlvs : List TlvSpec := [
  userMessageReference, sourcePort, sourceAddrSubunit, destinationPort, destAddrSubunit,
  sarMsgRefNum, sarTotalSegments, sarSegmentSeqnum, moreMessagesToSend, payloadType,
  messagePayload, privacyIndicator, callbackNum, callbackNumPresInd, callbackNumAtag,
  sourceSubaddress, destSubaddress, userResponseCode, displayTime, smsSignal, msValidity,
  msMsgWaitFacilities, numberOfMessages, alertOnMsgDelivery, languageIndicator, itsReplyType,
  itsSessionInfo, ussdServiceOp]

def submitMultiFields : List FieldSpec := [
  serviceType, sourceAddrTon, sourceAddrNpi, sourceAddr, destAddresses, esmClass, protocolId,
  priorityFlag, scheduleDeliveryTime, validityPeriod, registeredDelivery,
  replaceIfPresentFlag, dataCoding, smDefaultMsgId, shortMessage]

def submitMultiTlvs : List TlvSpec := [
  userMessageReference, sourcePort, sourceAddrSubunit, destinationPort, destAddrSubunit,
  sarMsgRefNum, sarTotalSegments, sarSegmentSeqnum, payloadType, messagePayload,
  privacyIndicator, callbackNum, callbackNumPresInd, callbackNumAtag, sourceSubaddress,
  destSubaddress, displayTime, smsSignal, msValidity, msMsgWaitFacilities, alertOnMsgDelivery,
  languageIndicator]

def submitMultiRespFields : List FieldSpec := [messageId, unsuccessSmes]

def deliverSmTlvs : List TlvSpec := [
  userMessageReference, sourcePort, destinationPort, sarMsgRefNum, sarTotalSegments,
  sarSegmentSeqnum, userResponseCode, privacyIndicator, payloadType, messagePayload,
  callbackNum, sourceSubaddress, destSubaddress, languageIndicator, itsSessionInfo,
  networkErrorCode, messageStateOption, receiptedMessageId]

def replaceSmFields : List FieldSpec := [
  messageId, sourceAddrTon, sourceAddrNpi, sourceAddr, scheduleDeliveryTime, validityPeriod,
  registeredDelivery, smDefaultMsgId, shortMessage]

def cancelSmFields : List FieldSpec := [
  serviceType, messageId, sourceAddrTon, sourceAddrNpi, sourceAddr, destAddrTon, destAddrNpi,
  destinationAddr]

def alertNotificationFields : List FieldSpec := [
  sourceAddrTon, sourceAddrNpi, sourceAddrLong, esmeAddrTon, esmeAddrNpi, esmeAddr]

def alertNotificationTlvs : List TlvSpec := [msAvailabilityStatus]

def dataSmFields : List FieldSpec := [
  serviceType, sourceAddrTon, sourceAddrNpi, sourceAddrLong, destAddrTon, destAddrNpi,
  destinationAddrLong, esmClass, registeredDelivery, dataCoding]

def dataSmTlvs : List TlvSpec := [
  sourcePort, sourceAddrSubunit, sourceNetworkType, sourceBearerType, sourceTelematicsId,
  destinationPort, destAddrSubunit, destNetworkType, destBearerType, destTelematicsId,
  sarMsgRefNum, sarTotalSegments, sarSegmentSeqnum, moreMessagesToSend, qosTimeToLive,
  payloadType, messagePayload, setDpf, receiptedMessageId, messageStateOption,
  networkErrorCode, userMessageReference, privacyIndicator, callbackNum, callbackNumPresInd,
  callbackNumAtag, sourceSubaddress, destSubaddress, userResponseCode, displayTime, smsSignal,
  msValidity, msMsgWaitFacilities, numberOfMessages, alertOnMsgDelivery, languageIndicator,
  itsReplyType, itsSessionInfo]

def dataSmRespTlvs : List TlvSpec := [
  deliveryFailureReason, networkErrorCode, additionalStatusInfoText, dpfResult]

end FieldTable

open FieldTable in
/-- The layout of a message type. -/
def MessageType.layout : MessageType → Layout
  | .genericNack => { mandatory := [], optional := [] }
  | .bindReceiver => { mandatory := bindFields, optional := [] }
  | .bindReceiverResp => { mandatory := bindRespFields, optional := bindRespTlvs }
  | .bindTransmitter => { mandatory := bindFields, optional := [] }
  | .bindTransmitterResp => { mandatory := bindRespFields, optional := bindRespTlvs }
  | .querySm => { mandatory := querySmFields, optional := [] }
  | .querySmResp => { mandatory := querySmRespFields, optional := [] }
  | .submitSm => { mandatory := submitSmFields, optional := submitSmTlvs }
  | .submitSmResp => { mandatory := messageIdFields, optional := [] }
  | .deliverSm => { mandatory := submitSmFields, optional := deliverSmTlvs }
  | .deliverSmResp => { mandatory := messageIdFields, optional := [] }
  | .unbind => { mandatory := [], optional := [] }
  | .unbindResp => { mandatory := [], optional := [] }
  | .replaceSm => { mandatory := replaceSmFields, optional := [] }
  | .replaceSmResp => { mandatory := [], optional := [] }
  | .cancelSm => { mandatory := cancelSmFields, optional := [] }
  | .cancelSmResp => { mandatory := [], optional := [] }
  | .bindTransceiver => { mandatory := bindFields, optional := [] }
  | .bindTransceiverResp => { mandatory := bindRespFields, optional := bindRespTlvs }
  | .outbind => { mandatory := outbindFields, optional := [] }
  | .enquireLink => { mandatory := [], optional := [] }
  | .enquireLinkResp => { mandatory := [], optional := [] }
  | .submitMulti => { mandatory := submitMultiFields, optional := submitMultiTlvs }
  | .submitMultiResp =>
      { mandatory := submitMultiRespFields
        optional := []
        unsupported := some "SUBMIT_MULTI_RESP 的 unsuccess_sme 列表尚未实现" }
  | .alertNotification =>
      { mandatory := alertNotificationFields
        optional := alertNotificationTlvs
        unsupported := some "ALERT_NOTIFICATION 尚未实现" }
  | .dataSm => { mandatory := dataSmFields, optional := dataSmTlvs }
  | .dataSmResp => { mandatory := messageIdFields, optional := dataSmRespTlvs }

end SmppReplay
