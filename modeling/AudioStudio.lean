import AudioStudio.DataLink.RoundTrip
import AudioStudio.Transport.Recovery
import AudioStudio.Controller.ChannelQueue
import AudioStudio.Log.Mirror
import AudioStudio.Rpc.SocketServing
import AudioStudio.Playback.WriteLoop
import AudioStudio.Playback.Capture
import AudioStudio.Playback.Call
import AudioStudio.Simulator.Ownership
import AudioStudio.Config.Unique
import AudioStudio.Gui.PlaybackCalls
import AudioStudio.Gui.Isolation
import AudioStudio.Gui.Saving
import AudioStudio.Gui.CommandLines
import AudioStudio.Transport.ChannelLifetime
import AudioStudio.Transport.AsyncRequests
import AudioStudio.DataLink.Resync
import AudioStudio.DataLink.Reassembly
import AudioStudio.Controller.SlotInvariant
import AudioStudio.Loader.Transaction
import AudioStudio.Loader.Routes
import AudioStudio.Controller.OpenRequest
import AudioStudio.Audio.CaptureReads
import AudioStudio.Audio.RegistryRaces
import AudioStudio.Log.TraceCuts
import AudioStudio.Rpc.Notifications
import AudioStudio.Rpc.NumericIds
import AudioStudio.SystemInfo.LastWriter
import AudioStudio.Log.ConfigureSession
import AudioStudio.Rpc.GeneratedIds
import AudioStudio.Rpc.JsonExact
import AudioStudio.Config.TableRows
import AudioStudio.Config.Plugins
import AudioStudio.Config.SinglePayload
import AudioStudio.Config.SofWalk
import AudioStudio.Config.Outcomes
import AudioStudio.Gui.HttpRequests
import AudioStudio.Gui.Queries
import AudioStudio.Gui.StablePaths
import AudioStudio.Gui.ValidationSelector
import AudioStudio.Gui.CompileVerdicts
import AudioStudio.Gui.Base64Copies
import AudioStudio.Config.Checksums
import AudioStudio.Controller.TopologyListing
import AudioStudio.Cli.AudioTools
import AudioStudio.Audio.AlsaReads
import AudioStudio.Audio.WasapiReads
import AudioStudio.Drivers.Semaphore
