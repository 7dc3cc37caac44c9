import OpenaiAudioStream.Runs
import OpenaiAudioStream.BoundedFifo
import OpenaiAudioStream.JsonGrammar
import OpenaiAudioStream.JsonReader
import OpenaiAudioStream.JsonDepth
import OpenaiAudioStream.AudioQueueCore
import OpenaiAudioStream.PlaybackCore
import OpenaiAudioStream.AudioQueueLaws
import OpenaiAudioStream.RawAudio
import OpenaiAudioStream.FrameDrops
import OpenaiAudioStream.PlaybackTransitions
import OpenaiAudioStream.PlaybackHistory
import OpenaiAudioStream.PlaybackErasure
import OpenaiAudioStream.PlaybackInvariants
import OpenaiAudioStream.PlaybackConservation
import OpenaiAudioStream.PlaybackOrder
import OpenaiAudioStream.PlaybackProgress
import OpenaiAudioStream.BargeIn
import OpenaiAudioStream.LaterAudio
import OpenaiAudioStream.PlaybackDrain
import OpenaiAudioStream.TerminalClose
import OpenaiAudioStream.SpeechBrackets
import OpenaiAudioStream.PlaybackMute
import OpenaiAudioStream.CaptureAggregation
import OpenaiAudioStream.CaptureCore
import OpenaiAudioStream.CaptureTransitions
import OpenaiAudioStream.CaptureInvariants
import OpenaiAudioStream.CaptureMute
import OpenaiAudioStream.CapturePrivacy
import OpenaiAudioStream.CaptureErasure
import OpenaiAudioStream.CaptureConnections
import OpenaiAudioStream.CaptureOpenaiMute
import OpenaiAudioStream.CaptureDelivery
import OpenaiAudioStream.CaptureStop
import OpenaiAudioStream.LifecycleCore
import OpenaiAudioStream.LifecycleTeardown
import OpenaiAudioStream.Ledger
import OpenaiAudioStream.StreamResources
import OpenaiAudioStream.ResourceSafety
import OpenaiAudioStream.LifecycleLock
import OpenaiAudioStream.LifecycleExclusion
import OpenaiAudioStream.LifecycleRegistry
import OpenaiAudioStream.CString
import OpenaiAudioStream.Utf8
import OpenaiAudioStream.WsUri
import OpenaiAudioStream.StartCommand
import OpenaiAudioStream.ApiCommand
import OpenaiAudioStream.SessionThreads
import OpenaiAudioStream.SessionExclusion
import OpenaiAudioStream.SessionRefinement
import OpenaiAudioStream.SessionProgress
import OpenaiAudioStream.SetoidMap
import OpenaiAudioStream.CJson
import OpenaiAudioStream.ExtraHeaders
import OpenaiAudioStream.Base64
import OpenaiAudioStream.Base64Encode
import OpenaiAudioStream.Base64Grammar
import OpenaiAudioStream.MessageHandling
import OpenaiAudioStream.RateConversion
import OpenaiAudioStream.PlaybackResampling
import OpenaiAudioStream.DrivenLoop
import OpenaiAudioStream.CaptureResampling
import OpenaiAudioStream.SessionSetup
import OpenaiAudioStream.CaptureProgress
import OpenaiAudioStream.CaptureOrder
import OpenaiAudioStream.CaptureWhole
import OpenaiAudioStream.DebugFiles
import OpenaiAudioStream.Riff
import OpenaiAudioStream.DebugRecordings
import OpenaiAudioStream.Uplink
import OpenaiAudioStream.Downlink
import OpenaiAudioStream.StreamEvents
