/-! The opcodes of control PDUs. -/

namespace BlePeripheral

inductive ControlOpcode where
  | connectionUpdateInd
  | channelMapInd
  | terminateInd
  | encReq
  | encRsp
  | startEncReq
  | startEncRsp
  | unknownRsp
  | featureReq
  | featureRsp
  | pauseEncReq
  | pauseEncRsp
  | versionInd
  | rejectInd
  | peripheralFeatureReq
  | connectionParamReq
  | connectionParamRsp
  | rejectExtInd
  | pingReq
  | pingRsp
  | lengthReq
  | lengthRsp
  | phyReq
  | phyRsp
  | phyUpdateInd
  | minUsedChannelsInd
  | unknown (code : UInt8)
deriving DecidableEq, Repr

namespace ControlOpcode

def known : List ControlOpcode :=
  [connectionUpdateInd, channelMapInd, terminateInd, encReq, encRsp, startEncReq, startEncRsp,
    unknownRsp, featureReq, featureRsp, pauseEncReq, pauseEncRsp, versionInd, rejectInd,
    peripheralFeatureReq, connectionParamReq, connectionParamRsp, rejectExtInd, pingReq, pingRsp,
    lengthReq, lengthRsp, phyReq, phyRsp, phyUpdateInd, minUsedChannelsInd]

def code : ControlOpcode → UInt8
  | connectionUpdateInd => 0x00
  | channelMapInd => 0x01
  | terminateInd => 0x02
  | encReq => 0x03
  | encRsp => 0x04
  | startEncReq => 0x05
  | startEncRsp => 0x06
  | unknownRsp => 0x07
  | featureReq => 0x08
  | featureRsp => 0x09
  | pauseEncReq => 0x0A
  | pauseEncRsp => 0x0B
  | versionInd => 0x0C
  | rejectInd => 0x0D
  | peripheralFeatureReq => 0x0E
  | connectionParamReq => 0x0F
  | connectionParamRsp => 0x10
  | rejectExtInd => 0x11
  | pingReq => 0x12
  | pingRsp => 0x13
  | lengthReq => 0x14
  | lengthRsp => 0x15
  | phyReq => 0x16
  | phyRsp => 0x17
  | phyUpdateInd => 0x18
  | minUsedChannelsInd => 0x19
  | unknown code => code

def ofCode (c : UInt8) : ControlOpcode := (known.find? (·.code = c)).getD (.unknown c)

def name : ControlOpcode → String
  | connectionUpdateInd => "LL_CONNECTION_UPDATE_IND"
  | channelMapInd => "LL_CHANNEL_MAP_IND"
  | terminateInd => "LL_TERMINATE_IND"
  | encReq => "LL_ENC_REQ"
  | encRsp => "LL_ENC_RSP"
  | startEncReq => "LL_START_ENC_REQ"
  | startEncRsp => "LL_START_ENC_RSP"
  | unknownRsp => "LL_UNKNOWN_RSP"
  | featureReq => "LL_FEATURE_REQ"
  | featureRsp => "LL_FEATURE_RSP"
  | pauseEncReq => "LL_PAUSE_ENC_REQ"
  | pauseEncRsp => "LL_PAUSE_ENC_RSP"
  | versionInd => "LL_VERSION_IND"
  | rejectInd => "LL_REJECT_IND"
  | peripheralFeatureReq => "LL_PERIPHERAL_FEATURE_REQ"
  | connectionParamReq => "LL_CONNECTION_PARAM_REQ"
  | connectionParamRsp => "LL_CONNECTION_PARAM_RSP"
  | rejectExtInd => "LL_REJECT_EXT_IND"
  | pingReq => "LL_PING_REQ"
  | pingRsp => "LL_PING_RSP"
  | lengthReq => "LL_LENGTH_REQ"
  | lengthRsp => "LL_LENGTH_RSP"
  | phyReq => "LL_PHY_REQ"
  | phyRsp => "LL_PHY_RSP"
  | phyUpdateInd => "LL_PHY_UPDATE_IND"
  | minUsedChannelsInd => "LL_MIN_USED_CHANNELS_IND"
  | unknown _ => "LL_UNKNOWN"

def identifier : ControlOpcode → String
  | connectionUpdateInd => "ConnectionUpdateInd"
  | channelMapInd => "ChannelMapInd"
  | terminateInd => "TerminateInd"
  | encReq => "EncReq"
  | encRsp => "EncRsp"
  | startEncReq => "StartEncReq"
  | startEncRsp => "StartEncRsp"
  | unknownRsp => "UnknownRsp"
  | featureReq => "FeatureReq"
  | featureRsp => "FeatureRsp"
  | pauseEncReq => "PauseEncReq"
  | pauseEncRsp => "PauseEncRsp"
  | versionInd => "VersionInd"
  | rejectInd => "RejectInd"
  | peripheralFeatureReq => "PeripheralFeatureReq"
  | connectionParamReq => "ConnectionParamReq"
  | connectionParamRsp => "ConnectionParamRsp"
  | rejectExtInd => "RejectExtInd"
  | pingReq => "PingReq"
  | pingRsp => "PingRsp"
  | lengthReq => "LengthReq"
  | lengthRsp => "LengthRsp"
  | phyReq => "PhyReq"
  | phyRsp => "PhyRsp"
  | phyUpdateInd => "PhyUpdateInd"
  | minUsedChannelsInd => "MinUsedChannelsInd"
  | unknown code => s!"Unknown({code})"

end ControlOpcode

end BlePeripheral
