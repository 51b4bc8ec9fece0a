import T1Bridge.Auth.Isolation
import T1Bridge.Auth.Shutdown
import T1Bridge.Device.Enroll
import T1Bridge.Store.Process
import T1Bridge.Wire.RequestSize
import T1Bridge.Wire.RpcSession
import T1Bridge.Xart.History
import T1Bridge.Sep.UrbLife
import T1Bridge.Sep.SessionLife
import T1Bridge.TouchBar.Buffers
import T1Bridge.Import.Signing
import T1Bridge.Import.XmlPlist
import T1Bridge.Auth.Lifecycle
import T1Bridge.Auth.WorkerSlot
import T1Bridge.Auth.Manifest
import T1Bridge.TouchBar.ActionQueue
import T1Bridge.TouchBar.StockSlice
import T1Bridge.TouchBar.Overlay
import T1Bridge.TouchBar.Uinput
import T1Bridge.Device.Removal
import T1Bridge.Wire.PlistValue
import T1Bridge.Wire.PlistWork
