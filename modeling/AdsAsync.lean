import AdsAsync.Client.Notification
import AdsAsync.Client.Fanout
import AdsAsync.Client.System
import AdsAsync.Client.Requests
import AdsAsync.Client.ReadLoop
import AdsAsync.Client.Subscriptions
import AdsAsync.Client.Supervisor
import AdsAsync.Client.Symbols
import AdsAsync.Client.Completion
import AdsAsync.Client.Confirmation
import AdsAsync.Wire.Structs
import AdsAsync.Wire.NetId
import AdsAsync.Wire.ReadWrite
import AdsAsync.Wire.Commands
import AdsAsync.Wire.Headers
